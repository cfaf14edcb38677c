import AkashProvider.Hostname.Service
import AkashProvider.Lib.Run

/-!
# Who holds a hostname

`HostnameWorld` says which lease holds which name, going by requests and answers alone, and the
service should agree (`Kept`).  The service knows holders by group, so the release of one lease
frees the names of another of the group (`re_lease_loses_hostname`).  `hostnames_kept` says that
this is all that goes wrong.
-/

namespace AkashProvider

/-! ## Leases and what they hold -/

structure HostnameWorld where
  svc : HostnameService
  /-- A lease and a name that it holds. -/
  held : List (LeaseID × String)

variable (S : HostnameSdk)

def letGo (held : List (LeaseID × String)) (l : LeaseID) : List (LeaseID × String) :=
  held.filter (·.1 ≠ l)

/-- Who holds what after a request, by the answer that its lease gets. -/
def heldAfter (w : HostnameWorld) : HostnameRequest → List (LeaseID × String)
  | .reserve hostnames l =>
    match w.svc.reserveHostnames S hostnames l with
    | .ok (_, withheld) =>
      -- the list replaces what the lease had reserved before
      letGo w.held l ++ ((hostnames.map S.toLower).filter (· ∉ withheld)).map (l, ·)
    | .error _ => w.held
  | .canReserve _ _ => w.held
  | .prepareForTransfer hostnames l =>
    match w.svc.prepareHostnamesForTransfer S hostnames l with
    | .ok _ =>
      let moved := hostnames.filter fun h => (w.svc.inUse h).isSome
      w.held.filter (·.2 ∉ moved) ++ moved.map (l, ·)
    | .error _ => w.held
  | .release l =>
    match w.svc.releaseHostnames S l with
    | .ok _ => letGo w.held l
    | .error _ => w.held

def hostnameStep (w : HostnameWorld) (r : HostnameRequest) : Option HostnameWorld :=
  some ⟨w.svc.serve S r, heldAfter S w r⟩

/-- The name is reserved to the owner and the group of the lease. -/
def HostnameService.HeldBy (svc : HostnameService) (l : LeaseID) (h : String) : Prop :=
  ∃ hID, hostnameIDFromLeaseID S l = .ok hID ∧ svc.inUse h = some hID

def HostnameWorld.Kept (w : HostnameWorld) : Prop :=
  ∀ p ∈ w.held, w.svc.HeldBy S p.1 p.2

/-- The leases are of one owner, deployment and group. -/
def SameGroup (l l' : LeaseID) : Prop :=
  hostnameIDFromLeaseID S l = hostnameIDFromLeaseID S l'

/-- No other lease of the group holds a name that the request would free. -/
def AloneInGroup (w : HostnameWorld) : HostnameRequest → Prop
  | .reserve hostnames l =>
    ∀ p ∈ w.held, p.1 ≠ l → SameGroup S p.1 l → p.2 ∈ hostnames.map S.toLower
  | .release l => ∀ p ∈ w.held, p.1 ≠ l → ¬ SameGroup S p.1 l
  | .canReserve _ _ | .prepareForTransfer _ _ => True

instance (l l' : LeaseID) : Decidable (SameGroup S l l') :=
  by unfold SameGroup; infer_instance

instance (w : HostnameWorld) : DecidablePred (AloneInGroup S w) := by
  intro e
  unfold AloneInGroup
  split <;> infer_instance

/-! ## One request -/

variable {S}

variable {l : LeaseID}

theorem mem_letGo {held : List (LeaseID × String)} {p : LeaseID × String} :
    p ∈ letGo held l ↔ p ∈ held ∧ p.1 ≠ l := by
  simp [letGo]

variable {hostnames : List String} {w : HostnameWorld}

theorem reserve_kept (halone : AloneInGroup S w (.reserve hostnames l)) (hkept : w.Kept S) :
    HostnameWorld.Kept S ⟨w.svc.serve S (.reserve hostnames l),
      heldAfter S w (.reserve hostnames l)⟩ := by
  intro p hp
  cases hres : w.svc.reserveHostnames S hostnames l with
  | error e =>
    simp only [heldAfter, hres] at hp
    simp only [HostnameService.serve, hres]
    exact hkept p hp
  | ok out =>
    obtain ⟨svc', withheld⟩ := out
    simp only [heldAfter, hres] at hp
    simp only [HostnameService.serve, hres]
    obtain ⟨-, hID, store', hid, himpl, rfl⟩ := HostnameService.reserveHostnames_eq_ok_iff.mp hres
    rcases List.mem_append.mp hp with hp | hp
    · -- a name of another lease
      obtain ⟨hp, hne⟩ := mem_letGo.mp hp
      obtain ⟨hID', hid', hin⟩ := hkept p hp
      refine ⟨hID', hid', reserveHostnamesImpl_keeps himpl hin fun hsame => ?_⟩
      exact halone p hp hne (hid'.trans (hsame ▸ hid.symm))
    · -- a name that the lease has reserved now
      obtain ⟨h, hh, rfl⟩ := List.mem_map.mp hp
      obtain ⟨hmem, hnot⟩ := List.mem_filter.mp hh
      have hnot : h ∉ withheld := of_decide_eq_true hnot
      have happly := reserveHostnamesImpl_apply himpl h
      rw [if_pos hmem, if_neg hnot] at happly
      exact ⟨hID, hid, happly⟩

theorem prepareForTransfer_kept (hkept : w.Kept S) :
    HostnameWorld.Kept S ⟨w.svc.serve S (.prepareForTransfer hostnames l),
      heldAfter S w (.prepareForTransfer hostnames l)⟩ := by
  intro p hp
  cases hres : w.svc.prepareHostnamesForTransfer S hostnames l with
  | error e =>
    simp only [heldAfter, hres] at hp
    simp only [HostnameService.serve, hres]
    exact hkept p hp
  | ok svc' =>
    simp only [heldAfter, hres] at hp
    simp only [HostnameService.serve, hres]
    obtain ⟨hID, store', hid, himpl, rfl⟩ :=
      HostnameService.prepareHostnamesForTransfer_eq_ok_iff.mp hres
    have happly := prepareHostnamesImpl_apply himpl p.2
    rcases List.mem_append.mp hp with hp | hp
    · obtain ⟨hp, hstays⟩ := List.mem_filter.mp hp
      have hstays : ¬ (p.2 ∈ hostnames ∧ (w.svc.inUse p.2).isSome) := fun hmoved =>
        of_decide_eq_true hstays (List.mem_filter.mpr hmoved)
      obtain ⟨hID', hid', hin⟩ := hkept p hp
      rw [if_neg hstays] at happly
      exact ⟨hID', hid', happly.trans hin⟩
    · obtain ⟨h, hh, rfl⟩ := List.mem_map.mp hp
      obtain ⟨hmem, hsome⟩ := List.mem_filter.mp hh
      rw [if_pos ⟨hmem, hsome⟩] at happly
      exact ⟨hID, hid, happly⟩

theorem release_kept (halone : AloneInGroup S w (.release l)) (hkept : w.Kept S) :
    HostnameWorld.Kept S ⟨w.svc.serve S (.release l), heldAfter S w (.release l)⟩ := by
  intro p hp
  cases hres : w.svc.releaseHostnames S l with
  | error e =>
    simp only [heldAfter, hres] at hp
    simp only [HostnameService.serve, hres]
    exact hkept p hp
  | ok svc' =>
    simp only [heldAfter, hres] at hp
    simp only [HostnameService.serve, hres]
    obtain ⟨hID, hid, rfl⟩ := HostnameService.releaseHostnames_eq_ok_iff.mp hres
    obtain ⟨hp, hne⟩ := mem_letGo.mp hp
    obtain ⟨hID', hid', hin⟩ := hkept p hp
    refine ⟨hID', hid', releaseHostnamesImpl_keeps hin fun hsame => ?_⟩
    exact halone p hp hne (hid'.trans (hsame ▸ hid.symm))

theorem hostnameStep_kept (w : HostnameWorld) (r : HostnameRequest) (w' : HostnameWorld)
    (halone : AloneInGroup S w r) (hstep : hostnameStep S w r = some w') (hkept : w.Kept S) :
    w'.Kept S := by
  injection hstep with hstep
  subst hstep
  cases r with
  | reserve hostnames l => exact reserve_kept halone hkept
  | canReserve hostnames ownerAddr =>
    intro p hp
    rw [HostnameService.serve_canReserve]
    exact hkept p hp
  | prepareForTransfer hostnames l => exact prepareForTransfer_kept hkept
  | release l => exact release_kept halone hkept

/-! ## Runs

The service starts with the hostnames found in the cluster, each held by the lease it
was found for. -/

variable {initialData : List (String × LeaseID)} {k : String}

theorem initialHostnames_of_not_mem (hk : k ∉ initialData.map Prod.fst) :
    ∀ {inUse store : HostnameMap},
    initialHostnames S initialData inUse = .ok store → store k = inUse k := by
  induction initialData with
  | nil =>
    intro inUse store h
    injection h with h
    rw [h]
  | cons e initialData ih =>
    intro inUse store h
    obtain ⟨hID, -, h⟩ := Except.exists_of_bind_eq_ok h
    rw [List.map_cons, List.mem_cons, not_or] at hk
    rw [ih hk.2 h, Registry.assign_apply, if_neg]
    grind

theorem initialHostnames_of_mem (hkeys : (initialData.map Prod.fst).Nodup) {v : LeaseID}
    (hmem : (k, v) ∈ initialData) : ∀ {inUse store : HostnameMap},
    initialHostnames S initialData inUse = .ok store →
      ∃ hID, hostnameIDFromLeaseID S v = .ok hID ∧ store k = some hID := by
  induction initialData with
  | nil => cases hmem
  | cons e initialData ih =>
    intro inUse store h
    obtain ⟨hID, hid, h⟩ := Except.exists_of_bind_eq_ok h
    rw [List.map_cons, List.nodup_cons] at hkeys
    rcases List.mem_cons.mp hmem with rfl | hmem
    · refine ⟨hID, hid, ?_⟩
      rw [initialHostnames_of_not_mem hkeys.1 h, Registry.assign_apply,
        if_pos (List.mem_singleton.mpr rfl)]
    · exact ih hkeys.2 hmem h

theorem newHostnameService_kept {blocked : List String} (hkeys : (initialData.map Prod.fst).Nodup)
    {svc : HostnameService} (hnew : newHostnameService S blocked initialData = .ok svc) :
    HostnameWorld.Kept S ⟨svc, initialData.map Prod.swap⟩ := by
  intro p hp
  obtain ⟨e, he, rfl⟩ := List.mem_map.mp hp
  obtain ⟨inUse, hinUse, hsvc⟩ := Except.exists_of_bind_eq_ok hnew
  injection hsvc with hsvc
  subst hsvc
  exact initialHostnames_of_mem hkeys he hinUse

/-- As long as a lease that releases or reserves is alone in its group, every name that a lease
holds is reserved to its owner and group. -/
theorem hostnames_kept {blocked : List String} {initialData : List (String × LeaseID)}
    (hkeys : (initialData.map Prod.fst).Nodup) {svc : HostnameService}
    (hnew : newHostnameService S blocked initialData = .ok svc) {w : HostnameWorld}
    (hrun : Runs (hostnameStep S) (AloneInGroup S) ⟨svc, initialData.map Prod.swap⟩ w) :
    ∀ l h, (l, h) ∈ w.held → w.svc.HeldBy S l h := by
  have hkept := hrun.invariant (fun w r w' hok hstep => hostnameStep_kept w r w' hok hstep)
    (newHostnameService_kept hkeys hnew)
  exact fun l h hmem => hkept (l, h) hmem

/-- The leases of one group, by their order. -/
def groupLease (oseq : UInt32) : LeaseID := ⟨"owner", 42, 1, oseq, "provider"⟩

/-- The world after some requests, of a provider that blocks nothing and has nothing to recover. -/
def hostnamesAfter (requests : List HostnameRequest) : HostnameWorld :=
  requests.foldl (fun w r => ⟨w.svc.serve .reference r, heldAfter .reference w r⟩)
    ⟨⟨fun _ => none, [], []⟩, []⟩

/-- A re-lease of a group reserves what the first lease has let go. -/
theorem hostnames_kept_in_turn :
    (hostnamesAfter [.reserve ["A.com"] (groupLease 1), .release (groupLease 1),
        .reserve ["A.com"] (groupLease 2)]).held = [(groupLease 2, "a.com")] ∧
      HostnameService.HeldBy .reference (hostnamesAfter [.reserve ["A.com"] (groupLease 1),
        .release (groupLease 1), .reserve ["A.com"] (groupLease 2)]).svc
          (groupLease 2) "a.com" := by
  have hnew : newHostnameService .reference [] [] = .ok (hostnamesAfter []).svc := rfl
  have hstart : Runs (hostnameStep .reference) (AloneInGroup .reference) _ (hostnamesAfter []) :=
    Runs.refl _
  have hfirst : Runs _ _ _ (hostnamesAfter [.reserve ["A.com"] (groupLease 1)]) :=
    hstart.next (.reserve ["A.com"] (groupLease 1)) (by decide) rfl
  have hrelease : Runs _ _ _ (hostnamesAfter [.reserve ["A.com"] (groupLease 1),
      .release (groupLease 1)]) :=
    hfirst.next (.release (groupLease 1)) (by decide +kernel) rfl
  have hrun : Runs _ _ _ (hostnamesAfter [.reserve ["A.com"] (groupLease 1),
      .release (groupLease 1), .reserve ["A.com"] (groupLease 2)]) :=
    hrelease.next (.reserve ["A.com"] (groupLease 2))
      (by decide +kernel) rfl
  have hkeys : (List.map Prod.fst ([] : List (String × LeaseID))).Nodup := List.nodup_nil
  exact ⟨by decide +kernel, hostnames_kept hkeys hnew hrun _ _ (by decide +kernel)⟩

/-- The first lease releases when the re-lease holds the name already: nobody has it, and a
lease of another owner gets it. -/
theorem re_lease_loses_hostname :
    ∃ w, Runs (hostnameStep .reference) (fun _ _ => True) (hostnamesAfter []) w ∧
      (groupLease 2, "a.com") ∈ w.held ∧ w.svc.inUse "a.com" = none ∧
      ¬ w.svc.HeldBy .reference (groupLease 2) "a.com" ∧
      (w.svc.reserveHostnames .reference ["a.com"] ⟨"tenant", 7, 1, 1, "provider"⟩).toOption.map
        (·.1.inUse "a.com") = some (some ⟨"tenant", 7, 1⟩) := by
  have hrun : Runs (hostnameStep .reference) (fun _ _ => True) (hostnamesAfter [])
      (hostnamesAfter [.reserve ["a.com"] (groupLease 1), .reserve ["a.com"] (groupLease 2),
        .release (groupLease 1)]) :=
    Runs.of_foldlM [.reserve ["a.com"] (groupLease 1), .reserve ["a.com"] (groupLease 2),
      .release (groupLease 1)] _ _ rfl
  have hfree : (hostnamesAfter [.reserve ["a.com"] (groupLease 1),
      .reserve ["a.com"] (groupLease 2), .release (groupLease 1)]).svc.inUse "a.com" = none := by
    decide +kernel
  refine ⟨_, hrun, by decide +kernel, hfree, ?_, by decide +kernel⟩
  rintro ⟨hID, -, hheld⟩
  rw [hfree] at hheld
  cases hheld

/-! ## Other owners -/

/-- The request is not for a lease of the owner. -/
def HostnameRequest.Foreign (S : HostnameSdk) (ownerAddr : String) : HostnameRequest → Prop
  | .reserve _ l | .prepareForTransfer _ l | .release l =>
    S.accAddressFromBech32 l.owner ≠ some ownerAddr
  | .canReserve _ _ => True

theorem HostnameService.Served.keeps {svc : HostnameService} {r : HostnameRequest}
    {store' : HostnameMap} (h : Served S svc r store') {name : String} {e : HostnameID}
    (hforeign : r.Foreign S e.owner) (hin : svc.inUse name = some e) : store' name = some e := by
  have hne {l : LeaseID} {hID : HostnameID} (hid : hostnameIDFromLeaseID S l = .ok hID)
      (hl : S.accAddressFromBech32 l.owner ≠ some e.owner) : e.owner ≠ hID.owner := fun heq =>
    hl (heq ▸ (hostnameIDFromLeaseID_eq_ok_iff.mp hid).1)
  cases h with
  | unchanged => exact hin
  | reserve hid himpl =>
    exact reserveHostnamesImpl_keeps himpl hin fun heq => absurd (heq ▸ rfl) (hne hid hforeign)
  | prepareForTransfer hid himpl =>
    -- a name of another owner would have been refused
    have hheld := (prepareHostnamesImpl_eq_ok_iff.mp himpl).1
    exact prepareHostnamesImpl_keeps himpl hin fun _ hmem =>
      hne hid hforeign (hheld name hmem e hin)
  | release hid =>
    exact releaseHostnamesImpl_keeps hin fun heq => absurd (heq ▸ rfl) (hne hid hforeign)

/-- Whatever leases of other owners request, an owner keeps every hostname, for the same group. -/
theorem foreign_requests_keep {ownerAddr : String} {w w' : HostnameWorld}
    (hrun : Runs (hostnameStep S) (fun _ r => r.Foreign S ownerAddr) w w') {name : String}
    {e : HostnameID} (howner : e.owner = ownerAddr) (hin : w.svc.inUse name = some e) :
    w'.svc.inUse name = some e := by
  subst howner
  refine Runs.invariant (I := fun w => w.svc.inUse name = some e) ?_ hrun hin
  intro w r w' hforeign hstep hin
  injection hstep with hstep
  subst hstep
  obtain ⟨store', hserved, hserve⟩ := HostnameService.exists_served S w.svc r
  rw [hserve]
  exact hserved.keeps hforeign hin

/-- Another owner asks for the name, and lets go of all that it has. -/
theorem foreign_requests_keep_held :
    let l : LeaseID := ⟨"tenant", 7, 1, 1, "provider"⟩
    (hostnamesAfter [.reserve ["a.com"] (groupLease 1), .reserve ["a.com"] l,
      .release l]).svc.inUse "a.com" = some ⟨"owner", 42, 1⟩ := by
  intro l
  refine foreign_requests_keep (S := .reference)
    (w := hostnamesAfter [.reserve ["a.com"] (groupLease 1)])
    (((Runs.refl _).next (.reserve ["a.com"] l) ?_ rfl).next (.release l) ?_ rfl) rfl
    (by decide +kernel) <;> simp [HostnameRequest.Foreign, HostnameSdk.reference, l]

end AkashProvider
