import AkashProvider.Kube.Deploy

/-!
# What the parts of `Deploy` do

Most parts of `Deploy` write one object, or objects of one kind, and leave the others alone
(`Framed`).  This is put together from the calls that a part makes (`Frames`).  The loop over
network policies and the clean-up say in addition what they have written and removed.
-/

namespace AkashProvider.Kube

variable {fails : Nat → Bool} {s s' : Deploying} {k : Kind} {W : Kind → String → Prop}

/-! ## Frames -/

/-- Only objects that `W` has were written, and no call was forgotten. -/
structure Framed (W : Kind → String → Prop) (s s' : Deploying) : Prop where
  calls : s.calls <+: s'.calls
  find : ∀ k name, ¬ W k name → (s'.cluster k).find name = (s.cluster k).find name

namespace Framed

theorem refl (s : Deploying) : Framed W s s := ⟨List.prefix_rfl, fun _ _ _ => rfl⟩

theorem trans {s'' : Deploying} (h : Framed W s s') (h' : Framed W s' s'') : Framed W s s'' :=
  ⟨h.calls.trans h'.calls, fun k name hW => (h'.find k name hW).trans (h.find k name hW)⟩

theorem mono {W' : Kind → String → Prop} (h : Framed W s s')
    (hW : ∀ k name, W k name → W' k name) : Framed W' s s' :=
  ⟨h.calls, fun k name hn => h.find k name fun hk => hn (hW k name hk)⟩

end Framed

/-- A run that ends with a value has written only what `W` has. -/
def Frames {α : Type} (W : Kind → String → Prop) (x : DeployM α) : Prop :=
  ∀ s, x.Meets s fun _ => Framed W s

namespace Frames

variable {α β : Type} {x : DeployM α} {f : α → DeployM β}

theorem pure {a : α} : Frames W (Pure.pure a : DeployM α) := fun s => .pure (.refl s)

theorem throw {e : DeployErr} : Frames W (Prog.throw e : DeployM α) := fun _ => .throw

theorem bind (hx : Frames W x) (hf : ∀ a, Frames W (f a)) : Frames W (x >>= f) :=
  fun s => (hx s).bind fun a s' hs => (hf a s').mono fun _ _ hs' => hs.trans hs'

theorem note {slot : Slot} {r : Applied slot.kind} : Frames W (Kube.note slot r) :=
  fun _ => .modify ⟨List.prefix_rfl, fun _ _ _ => rfl⟩

theorem ofExcept {r : Except DeployErr α} : Frames W (Prog.ofExcept r) :=
  fun s => .ofExcept fun _ _ => .refl s

theorem built_bind {r : Except BuildErr α} (hf : ∀ a, r = .ok a → Frames W (f a)) :
    Frames W (built r >>= f) := by
  refine fun s => Prog.Meets.bind (Q := fun a s' => r = .ok a ∧ s' = s) ?_ ?_
  · exact .ofExcept fun a ha => ⟨Except.mapError_eq_ok_iff.mp ha, rfl⟩
  · rintro a _ ⟨ha, rfl⟩
    exact hf a ha _

theorem orReturn {x : DeployM (Except ApiErr α)} (h : Frames W x) : Frames W (Kube.orReturn x) := by
  refine h.bind fun r => ?_
  cases r with
  | ok a => exact .pure
  | error e => exact .throw

theorem ignore (h : Frames W x) : Frames W (Kube.ignore x) := h.bind fun _ => .pure

theorem when {c : Bool} {y : DeployM PUnit} (h : Frames W y) : Frames W (Prog.when c y) :=
  fun s => .when (fun _ => h s) fun _ => .refl s

theorem forEach {g : α → DeployM PUnit} :
    ∀ l : List α, (∀ a ∈ l, Frames W (g a)) → Frames W (Prog.forEach g l)
  | [], _ => .pure
  | a :: l, h => (h a List.mem_cons_self).bind fun _ =>
      forEach l fun a ha => h a (List.mem_cons_of_mem _ ha)

end Frames

/-! ## Calls -/

/-- The state after a call. -/
def Deploying.written (s : Deploying) (k : Kind) (C : Collection k.Spec) (verb : Verb)
    (err : Option ApiErr) : Deploying :=
  { s with cluster := s.cluster.set k C, calls := s.calls ++ [⟨k, verb, err⟩] }

section

variable {C : Collection k.Spec} {verb : Verb} {err : Option ApiErr}

@[simp] theorem Deploying.written_cluster_self : (s.written k C verb err).cluster k = C :=
  ClusterState.set_self ..

theorem Framed.written (h : ∀ name, ¬ W k name → C.find name = (s.cluster k).find name) :
    Framed W s (s.written k C verb err) where
  calls := List.prefix_append ..
  find k' name hW := by
    by_cases hk : k' = k
    · subst hk
      rw [Deploying.written_cluster_self, h name hW]
    · exact congrArg (·.find name) (ClusterState.set_of_ne hk ..)

end

section Calls

variable {α β : Type} {verb : Verb} {name : String}
  {op : Collection k.Spec → Except ApiErr (α × Collection k.Spec)}

theorem call_meets {Q : Except ApiErr α → Deploying → Prop}
    (hfail : ∀ e, (e = .unavailable ∨ op (s.cluster k) = .error e) →
      Q (.error e) (s.written k (s.cluster k) verb (some e)))
    (hdone : ∀ a C, op (s.cluster k) = .ok (a, C) → Q (.ok a) (s.written k C verb none)) :
    (call fails k verb op).Meets s Q := by
  simp only [Deploying.written, ClusterState.set_eq_self] at hfail
  intro r s' hrun
  unfold call at hrun
  cases hf : fails s.calls.length <;> rw [hf] at hrun
  · cases hop : op (s.cluster k) with
    | error e =>
      rw [hop] at hrun
      cases hrun
      exact hfail e (.inr hop)
    | ok p =>
      rw [hop] at hrun
      cases hrun
      exact hdone p.1 p.2 hop
  · cases hrun
    exact hfail _ (.inl rfl)

theorem call_frames (h : ∀ C a C', op C = .ok (a, C') →
    ∀ name, ¬ W k name → C'.find name = C.find name) : Frames W (call fails k verb op) :=
  fun _ => call_meets (fun _ _ => .written fun _ _ => rfl) fun a C hop => .written (h _ a C hop)

theorem callList_frames {rs : List Requirement} : Frames W (callList fails k rs) :=
  call_frames fun _ _ _ hop => by
    cases hop
    exact fun _ _ => rfl

variable {o : Object k}

theorem callCreate_frames (h : W k o.name) : Frames W (callCreate fails k o) :=
  call_frames fun _ _ _ hop other hother => by
    obtain ⟨-, -, rfl⟩ := Collection.create_eq_ok hop
    exact Collection.find_put_of_ne fun heq => hother (heq ▸ h)

theorem callUpdate_frames (h : W k o.name) : Frames W (callUpdate fails k o) :=
  call_frames fun _ _ _ hop other hother =>
    (Collection.find_update hop).2.2.2 other fun heq => hother (heq ▸ h)

theorem callPatch_frames {f : k.Spec → k.Spec} (h : W k name) :
    Frames W (callPatch fails k name f) :=
  call_frames fun _ _ _ hop other hother => by
    obtain ⟨cur, hcur, hwrite⟩ := Collection.patch_eq_ok hop
    refine (Collection.find_update hwrite).2.2.2 other fun heq => hother ?_
    rwa [heq, (Collection.find_mem hcur).2]

/-- How reading an object ends. -/
inductive Got (name : String) (s : Deploying) : Except ApiErr (Object k) → Deploying → Prop where
  | failed {e : ApiErr} (he : e ≠ .notFound) :
      Got name s (.error e) (s.written k (s.cluster k) .get (some e))
  | missing (hfind : (s.cluster k).find name = none) :
      Got name s (.error .notFound) (s.written k (s.cluster k) .get (some .notFound))
  | found {o : Object k} (hfind : (s.cluster k).find name = some o) :
      Got name s (.ok o) (s.written k (s.cluster k) .get none)

theorem callGet_meets : (callGet fails k name).Meets s (Got name s) := by
  refine call_meets ?_ ?_
  · rintro e (rfl | herr)
    · exact .failed nofun
    · cases hget : (s.cluster k).get name <;> rw [hget] at herr <;> cases herr
      obtain ⟨hnone, rfl⟩ := Collection.get_eq_error_iff.mp hget
      exact .missing hnone
  · intro o C hop
    obtain ⟨o', hget, heq⟩ := Except.exists_of_map_eq_ok hop
    cases heq
    exact .found (Collection.get_eq_ok_iff.mp hget)

theorem Got.framed {r : Except ApiErr (Object k)} (h : Got name s r s') : Framed W s s' := by
  cases h <;> exact .written fun _ _ => rfl

theorem callGet_bind_frames {f : Except ApiErr (Object k) → DeployM β}
    (hok : ∀ o, o.name = name → Frames W (f (.ok o))) (herr : ∀ e, Frames W (f (.error e))) :
    Frames W (callGet fails k name >>= f) := fun s =>
  callGet_meets.bind fun r s' hgot => by
    refine Prog.Meets.mono ?_ fun _ _ hs' => hgot.framed.trans hs'
    cases hgot with
    | failed | missing => exact herr _ _
    | found hfind => exact hok _ (Collection.find_mem hfind).2 _

theorem orReturn_meets {x : DeployM (Except ApiErr α)} {Q : α → Deploying → Prop}
    (h : x.Meets s fun r s' => ∀ a, r = .ok a → Q a s') : (orReturn x).Meets s Q := by
  refine h.bind fun r s' hr => ?_
  cases r with
  | ok a => exact .pure (hr a rfl)
  | error e => exact .throw

theorem built_meets {x : Except BuildErr α} {Q : α → Deploying → Prop}
    (h : ∀ a, x = .ok a → Q a s) : (built x).Meets s Q :=
  .ofExcept fun a ha => h a (Except.mapError_eq_ok_iff.mp ha)

end Calls

/-! ## Applies -/

/-- The object that is written has the name under which it was looked up. -/
structure Builder.Named (b : Builder k) : Prop where
  create : ∀ obj, b.create = .ok obj → obj.name = b.name
  update : ∀ oobj uobj, oobj.name = b.name → b.update oobj = .ok uobj → uobj.name = b.name

section Applies

variable {K : KubeSdk} {d : ClusterDeployment}

theorem applyObject_frames {outdated : Object k → Object k → Bool} {b : Builder k} (hb : b.Named)
    (hW : W k b.name) : Frames W (applyObject fails outdated b) := by
  refine callGet_bind_frames (fun oobj hname => ?_) fun e => ?_
  · refine .built_bind fun uobj hbuild => .bind (.when (.ignore (.orReturn ?_))) fun _ => .pure
    exact callUpdate_frames (hb.update oobj uobj hname hbuild ▸ hW)
  · cases e with
    | notFound =>
      refine .built_bind fun obj hbuild => .bind (.orReturn ?_) fun _ => .pure
      exact callCreate_frames (hb.create obj hbuild ▸ hW)
    | _ => exact .throw

theorem applyDeployment_frames {b : Builder .deployment} (hb : b.Named)
    (hW : W .deployment b.name) : Frames W (applyDeployment fails d b) := by
  refine callGet_bind_frames (fun oobj hname => ?_) fun e => ?_
  · refine .built_bind fun uobj hbuild => .bind (.when (.ignore ?_)) fun _ =>
      .bind (.orReturn ?_) fun _ => .pure
    · exact callUpdate_frames (hb.update oobj uobj hname hbuild ▸ hW)
    · exact callPatch_frames (hname ▸ hW)
  · cases e with
    | notFound =>
      refine .built_bind fun obj hbuild => .bind (.orReturn ?_) fun _ => .pure
      exact callCreate_frames (hb.create obj hbuild ▸ hW)
    | _ => exact .throw

theorem apply_frames {a : Apply} (hb : a.builder.Named) (hW : W a.slot.kind a.builder.name) :
    Frames W (apply fails d a) := by
  obtain ⟨slot, b⟩ := a
  refine .bind ?_ fun _ => .note
  cases slot with
  | manifest | netPolicies => exact .pure
  | deployments => exact applyDeployment_frames hb hW
  | _ => exact applyObject_frames hb hW

theorem currentManifest_frames {mns : String} (hW : ∀ name, W .manifest name) :
    Frames W (currentManifest K fails d mns) := by
  refine .bind (callGet_bind_frames (fun o _ => .bind .note fun _ => .pure) fun e => ?_)
    fun omani => ?_
  · cases e with
    | notFound => exact .pure
    | _ => exact .throw
  · split
    · cases omani with
      | none =>
        exact .built_bind fun obj _ => .bind (.orReturn (callCreate_frames (hW _))) fun _ =>
          .bind .note fun _ => .pure
      | some omani =>
        refine .built_bind fun umani _ => .bind .ofExcept fun _ => ?_
        split
        · exact .bind (.orReturn (callUpdate_frames (hW _))) fun _ => .pure
        · exact .pure
    · exact .pure

end Applies

/-! ## Network policies -/

/-- No call has failed; that an object is not found is no failure. -/
def NoFailure (calls : List Call) : Prop :=
  ∀ c ∈ calls, c.err = none ∨ c.verb = .get ∧ c.err = some .notFound

instance (calls : List Call) : Decidable (NoFailure calls) :=
  inferInstanceAs (Decidable (∀ c ∈ calls, _))

theorem not_noFailure_written {C : Collection k.Spec} {verb : Verb} {e : ApiErr}
    (he : verb = .get → e ≠ .notFound) : ¬ NoFailure (s.written k C verb (some e)).calls := by
  intro h
  obtain h | ⟨hget, h⟩ := h _ (List.mem_append_right _ (List.mem_singleton_self _))
  · cases h
  · exact he hget (Option.some.inj h)

/-- The policies have been written one after the other, unless a call failed. -/
def PoliciesWritten (policies : List (Object .networkPolicy)) (s s' : Deploying) : Prop :=
  Framed (fun k _ => k = .networkPolicy) s s' ∧ (NoFailure s'.calls →
    (s'.cluster .networkPolicy).specOf =
      Collection.overwritten (s.cluster .networkPolicy).specOf policies)

section Policies

variable {K : KubeSdk} {d : ClusterDeployment} {C : Collection (Kind.Spec .networkPolicy)}
  {verb : Verb} {policies : List (Object .networkPolicy)}

theorem PoliciesWritten.of_failed {e : ApiErr} (he : verb = .get → e ≠ .notFound)
    (h : Framed (fun k _ => k = .networkPolicy) s s') :
    PoliciesWritten policies s (s'.written .networkPolicy C verb (some e)) :=
  ⟨h.trans (.written fun _ hk => absurd rfl hk), fun hcalls =>
    absurd hcalls (not_noFailure_written he)⟩

/-- A policy has its spec, and the rest of the loop is made. -/
theorem PoliciesWritten.cons {pol : Object .networkPolicy} {s₁ : Deploying}
    (h : Framed (fun k _ => k = .networkPolicy) s s₁)
    (hspec : (s₁.cluster .networkPolicy).specOf =
      Function.update (s.cluster .networkPolicy).specOf pol.name (some pol.spec))
    (hrest : PoliciesWritten policies s₁ s') : PoliciesWritten (pol :: policies) s s' :=
  ⟨h.trans hrest.1, fun hcalls => by rw [hrest.2 hcalls, hspec, Collection.overwritten_cons]⟩

theorem applyPolicies_meets : ∀ (policies : List (Object .networkPolicy)) (s : Deploying),
    (applyPolicies K fails d policies).Meets s fun _ => PoliciesWritten policies s
  | [], s => .pure ⟨.refl s, fun _ => rfl⟩
  | pol :: policies, s => by
    refine callGet_meets.bind fun r s₁ hgot => ?_
    have hframed : Framed (fun k _ => k = .networkPolicy) s s₁ := hgot.framed
    cases hgot with
    | @failed e he =>
      cases e with
      | notFound => exact absurd rfl he
      | _ => exact .pure (.of_failed (fun _ => he) (.refl s))
    | missing hfind =>
      refine .seq (call_meets (fun e _ => ?_) fun nobj C hwrite => ?_)
      · exact .pure (.of_failed nofun hframed)
      · obtain ⟨-, -, rfl⟩ := Collection.create_eq_ok hwrite
        refine (applyPolicies_meets policies _).bind fun _ s' hrest => .pure (.cons ?_ ?_ hrest)
        · exact hframed.trans (.written fun _ hk => absurd rfl hk)
        · simp only [Deploying.written_cluster_self, Collection.specOf_put]
    | @found oobj hfind =>
      -- the objects that are compared are not the one that is written
      show (if (!d.isObjectRevisionLatest (netPolUpdate K d pol).labels ||
        differ (netPolUpdate K d pol) oobj) = true then _ else _ : DeployM _).Meets _ _
      split
      · refine .seq (call_meets (fun e _ => ?_) fun o C hwrite => ?_)
        · exact .pure (.of_failed nofun hframed)
        · refine (applyPolicies_meets policies _).mono fun _ s' hrest => .cons ?_ ?_ hrest
          · exact hframed.trans (.written fun _ hk => absurd rfl hk)
          · rw [Deploying.written_cluster_self, Collection.specOf_update hwrite,
              Deploying.written_cluster_self]
      · next hcurrent =>
        refine (applyPolicies_meets policies _).mono fun _ s' hrest => .cons hframed ?_ hrest
        have hdiffer := (Bool.or_eq_false_iff.mp (Bool.not_eq_true _ ▸ hcurrent)).2
        have hspec : pol.spec = oobj.spec :=
          of_not_not (of_decide_eq_false (Bool.or_eq_false_iff.mp hdiffer).1)
        rw [Deploying.written_cluster_self, eq_comm, Function.update_eq_self_iff,
          Collection.specOf, hfind, hspec, Option.map_some]

theorem applyNetPolicies_meets :
    (applyNetPolicies K fails d policies).Meets s fun _ => PoliciesWritten policies s := by
  have hlist : Frames (fun _ _ => False) (orReturn (callList fails .networkPolicy [])) :=
    callList_frames.orReturn
  refine (hlist s).bind fun _ s₁ hframed => (applyPolicies_meets policies s₁).bind
    fun _ s' ⟨hframed', hspecs⟩ => .pure ⟨(hframed.mono nofun).trans hframed', fun hcalls => ?_⟩
  rw [hspecs hcalls]
  refine congrArg (Collection.overwritten · policies) (funext fun name => ?_)
  rw [Collection.specOf, hframed.find _ _ id, Collection.specOf]

end Policies

/-! ## Stale objects -/

section Cleanup

variable {K : KubeSdk} {rs : List Requirement} {servicesWithPermissions : List String}

theorem callDelete_frames {name : String} (h : W k name) : Frames W (callDelete fails k name) :=
  call_frames fun _ _ _ hop other hother => by
    obtain ⟨C', hdelete, heq⟩ := Except.exists_of_map_eq_ok hop
    cases heq
    obtain rfl := Collection.delete_eq_ok hdelete
    exact Collection.find_remove_of_ne fun heq => hother (heq ▸ h)

theorem callDeleteCollection_frames (h : ∀ name, W k name) :
    Frames W (callDeleteCollection fails k rs) :=
  call_frames fun _ _ _ _ other hother => absurd (h other) hother

theorem deleteListed_frames (h : ∀ name, W k name) : Frames W (deleteListed fails k rs) :=
  callList_frames.orReturn.bind fun _ => .forEach _ fun _ _ => (callDelete_frames (h _)).orReturn

theorem checkValues_frames {values : List String} : Frames W (checkValues K values) := by
  unfold checkValues
  split
  · exact .pure
  · exact .throw

theorem cleanupStaleRBACResources_frames
    (hW : ∀ k, k = .serviceAccount ∨ k = .role ∨ k = .roleBinding → ∀ name, W k name) :
    Frames W (cleanupStaleRBACResources K fails servicesWithPermissions) :=
  .bind (.when checkValues_frames) fun _ => .bind (deleteListed_frames (hW _ (.inl rfl))) fun _ =>
    .bind (deleteListed_frames (hW _ (.inr (.inl rfl)))) fun _ =>
      deleteListed_frames (hW _ (.inr (.inr rfl)))

theorem cleanupStaleResources_frames {group : Mani.Group}
    (hW : ∀ k, k ≠ .networkPolicy → ∀ name, W k name) :
    Frames W (cleanupStaleResources K fails group servicesWithPermissions) :=
  .bind checkValues_frames fun _ =>
    .bind (callDeleteCollection_frames (hW .deployment nofun)).orReturn fun _ =>
    .bind (callDeleteCollection_frames (hW .statefulSet nofun)).orReturn fun _ =>
    .bind (deleteListed_frames (hW .service nofun)) fun _ =>
      cleanupStaleRBACResources_frames (by rintro _ (rfl | rfl | rfl) <;> exact hW _ nofun)

/-- The objects of a kind that meet the requirements are gone, and no others. -/
def Filtered (k : Kind) (rs : List Requirement) (s s' : Deploying) : Prop :=
  Framed (fun k' _ => k' = k) s s' ∧ ∀ name, (s'.cluster k).find name =
    ((s.cluster k).find name).filter fun o => ¬ Requirement.MeetsAll rs o.labels

theorem callDeleteCollection_meets :
    (orReturn (callDeleteCollection fails k rs)).Meets s fun _ => Filtered k rs s := by
  refine orReturn_meets (call_meets nofun fun a C hop _ _ => ?_)
  cases hop
  refine ⟨.written fun _ hk => absurd rfl hk, fun name => ?_⟩
  rw [Deploying.written_cluster_self, Collection.find_removeAll]

/-- While the listed objects are deleted: those that are left are as they were. -/
structure Deleting (objs : List (Object k)) (s : Deploying) (rest : List (Object k))
    (s' : Deploying) : Prop where
  rest_sublist : rest.Sublist objs
  find : ∀ name, (s'.cluster k).find name =
    if name ∈ objs.map (·.name) ∧ name ∉ rest.map (·.name) then none else (s.cluster k).find name

theorem Deleting.next {objs rest : List (Object k)} {o : Object k}
    (hnodup : (objs.map (·.name)).Nodup) (h : Deleting objs s (o :: rest) s') :
    (orReturn (callDelete fails k o.name)).Meets s' fun _ => Deleting objs s rest := by
  refine orReturn_meets (call_meets nofun fun a C hop _ _ => ?_)
  obtain ⟨C', hdelete, heq⟩ := Except.exists_of_map_eq_ok hop
  cases heq
  obtain rfl := Collection.delete_eq_ok hdelete
  have ho : o.name ∉ rest.map (·.name) :=
    (List.nodup_cons.mp (hnodup.sublist (h.rest_sublist.map _))).1
  have hmem : o.name ∈ objs.map (·.name) :=
    List.mem_map_of_mem (h.rest_sublist.subset List.mem_cons_self)
  refine ⟨(List.sublist_cons_self _ _).trans h.rest_sublist, fun name => ?_⟩
  rw [Deploying.written_cluster_self, Collection.find_remove, h.find name]
  by_cases hname : name = o.name
  · subst hname
    simp [ho, hmem]
  · simp [hname]

theorem deleteListed_meets : (deleteListed fails k rs).Meets s fun _ => Filtered k rs s := by
  suffices h : (deleteListed fails k rs).Meets s fun _ s' => ∀ name, (s'.cluster k).find name =
      ((s.cluster k).find name).filter fun o => ¬ Requirement.MeetsAll rs o.labels from
    fun a s' hrun => ⟨deleteListed_frames (fun _ => rfl) s a s' hrun, h a s' hrun⟩
  refine .seq (orReturn_meets (call_meets nofun fun objs C hop _ hobjs => ?_))
  cases hop
  cases hobjs
  have hnodup : (((s.cluster k).objs.filter fun o => Requirement.MeetsAll rs o.labels).map
      (·.name)).Nodup := (s.cluster k).names_nodup.sublist (List.filter_sublist.map _)
  refine (Prog.Meets.forEach (I := Deleting _ s) (fun o rest s' h => h.next hnodup) _ _
    ⟨.refl _, fun name => ?_⟩).mono ?_
  · rw [if_neg fun h => h.2 h.1, Deploying.written_cluster_self]
  intro _ s' h name
  -- a name is listed if its object meets the requirements
  rw [h.find name]
  cases hfind : (s.cluster k).find name with
  | none => rw [Option.filter_none, ite_self]
  | some o =>
    obtain ⟨hmem, rfl⟩ := Collection.find_mem hfind
    rw [Option.filter_some]
    by_cases hmeets : Requirement.MeetsAll rs o.labels
    · grind
    · rw [if_neg, if_pos (by simpa using hmeets)]
      rintro ⟨hname, -⟩
      obtain ⟨o', ho', hname⟩ := List.mem_map.mp hname
      obtain ⟨ho', hmeets'⟩ := List.mem_filter.mp ho'
      obtain rfl := List.inj_on_of_nodup_map (s.cluster k).names_nodup ho' hmem hname
      exact hmeets (by simpa using hmeets')

/-- The kinds that are cleaned up by the name of the service. -/
def staleKinds : List Kind := [.deployment, .statefulSet, .service]

theorem cleanupStaleResources_meets {group : Mani.Group} :
    (cleanupStaleResources K fails group servicesWithPermissions).Meets s fun _ s' =>
      ∀ k ∈ staleKinds, ∀ name, (s'.cluster k).find name =
        ((s.cluster k).find name).filter fun o =>
          ¬ Requirement.MeetsAll (staleSelector (group.services.map (·.name))) o.labels := by
  have hcheck : Frames (fun _ _ => False) (checkValues K (group.services.map (·.name))) :=
    checkValues_frames
  refine (hcheck s).bind fun _ s₀ h₀ => ?_
  refine callDeleteCollection_meets.bind fun _ s₁ ⟨h₁, hf₁⟩ => ?_
  refine callDeleteCollection_meets.bind fun _ s₂ ⟨h₂, hf₂⟩ => ?_
  refine deleteListed_meets.bind fun _ s₃ ⟨h₃, hf₃⟩ => ?_
  refine (cleanupStaleRBACResources_frames (W := fun k _ => k ∉ staleKinds) ?_ s₃).mono
    fun _ s₄ h₄ k hk name => ?_
  · rintro _ (rfl | rfl | rfl) _ <;> decide
  rw [h₄.find k name (not_not.mpr hk)]
  obtain rfl | rfl | rfl : k = .deployment ∨ k = .statefulSet ∨ k = .service := by
    simpa [staleKinds] using hk
  · rw [h₃.find .deployment name nofun, h₂.find .deployment name nofun, hf₁, h₀.find _ _ id]
  · rw [h₃.find .statefulSet name nofun, hf₂, h₁.find .statefulSet name nofun, h₀.find _ _ id]
  · rw [hf₃, h₂.find .service name nofun, h₁.find .service name nofun, h₀.find _ _ id]

end Cleanup

/-! ## The deployment -/

section Deployment

variable {K : KubeSdk} {d : ClusterDeployment}

theorem withResourceVersion_eq_ok {currManifest : Option (Object .manifest)}
    {d' : ClusterDeployment} (h : withResourceVersion d currManifest = .ok d') :
    ∃ version, d' = { d with resourceVersion := version } := by
  unfold withResourceVersion at h
  split at h
  · cases h
    exact ⟨_, rfl⟩
  · cases currManifest with
    | none => cases h
    | some m =>
      cases h
      exact ⟨_, rfl⟩

variable {deployment : Deployment}

theorem clusterDeploymentFromDeployment_eq_ok
    (h : clusterDeploymentFromDeployment deployment = .ok d) :
    d.lid = deployment.leaseID ∧ d.group = deployment.manifestGroup := by
  grind [clusterDeploymentFromDeployment, Except.bind_eq_ok_iff]

theorem prepareDeploy_eq_ok {ctx : DeployContext} {settings : Settings}
    (h : prepareDeploy K ctx deployment = .ok (settings, d)) :
    d.lid = deployment.leaseID ∧ d.group = deployment.manifestGroup := by
  unfold prepareDeploy at h
  cases hsettings : ctx.settings <;> rw [hsettings] at h
  · cases h
  · grind [Except.bind_eq_ok_iff, Except.mapError_eq_ok_iff, clusterDeploymentFromDeployment_eq_ok]

end Deployment

end AkashProvider.Kube
