import AkashProvider.Hostname.Service

/-!
# Transferring hostnames

To move hostnames, the gateway prepares them for the transfer and reserves them for the
destination.  Reserving lowers the letters of the names, and preparing does not.
`transfer_exclusive_iff` says for which names and stores the two agree.
-/

namespace AkashProvider

variable (S : HostnameSdk)

/-- Preparing fails and changes nothing if some name of the list, in any spelling, is held by
another owner than that of the lease. -/
def RefusesOtherOwner (svc : HostnameService) (h : List String) (l : LeaseID) : Prop :=
  (∃ n ∈ h, ∃ k e, S.toLower k = S.toLower n ∧ svc.inUse k = some e ∧
      S.accAddressFromBech32 l.owner ≠ some e.owner) →
    (∃ err, svc.prepareHostnamesForTransfer S h l = .error err) ∧
      svc.serve S (.prepareForTransfer h l) = svc

def Unblocked (svc : HostnameService) (h : List String) : Prop :=
  ∀ n ∈ h, svc.isHostnameBlocked (S.toLower n) = .ok ()

/-- When preparing has succeeded, reserving the same names succeeds and withholds none. -/
def ReservesAfterPrepare (svc : HostnameService) (h : List String) (l : LeaseID) : Prop :=
  ∀ svc', svc.prepareHostnamesForTransfer S h l = .ok svc' → Unblocked S svc' h →
    ∃ svc'', svc'.reserveHostnames S h l = .ok (svc'', [])

/-- Where preparing finds no other owner for the names as spelled, there is none for any spelling,
and every lower-case name is in the list, free, or held by the group. -/
def SpellingsAgree (svc : HostnameService) (h : List String) (l : LeaseID) : Prop :=
  ∀ hID, hostnameIDFromLeaseID S l = .ok hID → HeldByOwner svc.inUse hID.owner h →
    (∀ n ∈ h, ∀ k e, S.toLower k = S.toLower n → svc.inUse k = some e → e.owner = hID.owner) ∧
    (Unblocked S svc h → ∀ n ∈ h, S.toLower n ∈ h ∨ svc.inUse (S.toLower n) = none ∨
      svc.inUse (S.toLower n) = some hID)

variable {S}

variable {h : List String} {l : LeaseID} {svc : HostnameService}

theorem exists_prepared_iff :
    (∃ svc', svc.prepareHostnamesForTransfer S h l = .ok svc') ↔
      ∃ hID, hostnameIDFromLeaseID S l = .ok hID ∧ HeldByOwner svc.inUse hID.owner h := by
  constructor
  · rintro ⟨svc', hok⟩
    obtain ⟨hID, store', hid, himpl, -⟩ :=
      HostnameService.prepareHostnamesForTransfer_eq_ok_iff.mp hok
    exact ⟨hID, hid, (prepareHostnamesImpl_eq_ok_iff.mp himpl).1⟩
  · rintro ⟨hID, hid, hheld⟩
    exact ⟨_, HostnameService.prepareHostnamesForTransfer_eq_ok_iff.mpr
      ⟨hID, _, hid, prepareHostnamesImpl_eq_ok_iff.mpr ⟨hheld, rfl⟩, rfl⟩⟩

theorem refusesOtherOwner_iff :
    RefusesOtherOwner S svc h l ↔
      ∀ hID, hostnameIDFromLeaseID S l = .ok hID → HeldByOwner svc.inUse hID.owner h →
        ∀ n ∈ h, ∀ k e, S.toLower k = S.toLower n → svc.inUse k = some e → e.owner = hID.owner := by
  constructor
  · intro hrefuses hID hid hheld n hn k e hk he
    by_contra hother
    have haddr := (hostnameIDFromLeaseID_eq_ok_iff.mp hid).1
    have hne : S.accAddressFromBech32 l.owner ≠ some e.owner := by grind
    obtain ⟨⟨err, herr⟩, -⟩ := hrefuses ⟨n, hn, k, e, hk, he, hne⟩
    obtain ⟨svc', hok⟩ := exists_prepared_iff.mpr ⟨hID, hid, hheld⟩
    rw [herr] at hok
    cases hok
  · rintro hagree ⟨n, hn, k, e, hk, he, hne⟩
    cases hprep : svc.prepareHostnamesForTransfer S h l with
    | error err => exact ⟨⟨err, rfl⟩, by simp only [HostnameService.serve, hprep]⟩
    | ok svc' =>
      obtain ⟨hID, hid, hheld⟩ := exists_prepared_iff.mp ⟨svc', hprep⟩
      grind [hostnameIDFromLeaseID_eq_ok_iff]

variable {hID : HostnameID}

/-- Reserving withholds nothing exactly if every requested name is free or the group's own. -/
theorem reserveHostnamesImpl_withholds_none_iff {store : HostnameMap} {names : List String} :
    (∃ store', reserveHostnamesImpl store names hID = .ok (store', [])) ↔
      ∀ n ∈ names, store n = none ∨ store n = some hID := by
  constructor
  · rintro ⟨store', hok⟩ n hn
    obtain ⟨-, hwithheld, -⟩ := reserveHostnamesImpl_eq_ok_iff.mp hok
    cases hstore : store n with
    | none => exact .inl rfl
    | some e =>
      refine .inr (congrArg some ?_)
      by_contra hne
      have hmem := mem_withheldOf.mpr ⟨hn, e, hstore, hne⟩
      rw [← hwithheld] at hmem
      cases hmem
  · intro hfree
    refine ⟨_, reserveHostnamesImpl_eq_ok_iff.mpr ⟨?_, ?_, rfl⟩⟩
    · intro n hn e he
      grind
    · refine (List.eq_nil_iff_forall_not_mem.mpr fun n hn => ?_).symm
      grind [mem_withheldOf]

theorem prepared_free_iff {store store' : HostnameMap}
    (hok : prepareHostnamesImpl store h hID = .ok store') (n : String) :
    (store' n = none ∨ store' n = some hID) ↔ n ∈ h ∨ store n = none ∨ store n = some hID := by
  rw [prepareHostnamesImpl_apply hok n]
  by_cases hn : n ∈ h
  · cases hstore : store n <;> simp [hn]
  · simp [hn]

theorem reservesAfterPrepare_iff :
    ReservesAfterPrepare S svc h l ↔
      ∀ hID, hostnameIDFromLeaseID S l = .ok hID → HeldByOwner svc.inUse hID.owner h →
        Unblocked S svc h → ∀ n ∈ h, S.toLower n ∈ h ∨ svc.inUse (S.toLower n) = none ∨
          svc.inUse (S.toLower n) = some hID := by
  constructor
  · intro hreserves hID hid hheld hunblocked n hn
    have himpl := prepareHostnamesImpl_eq_ok_iff.mpr ⟨hheld, rfl⟩
    have hprep := HostnameService.prepareHostnamesForTransfer_eq_ok_iff.mpr
      ⟨hID, _, hid, himpl, rfl⟩
    obtain ⟨svc'', hok⟩ := hreserves _ hprep hunblocked
    obtain ⟨-, hID', store'', hid', hres, -⟩ := HostnameService.reserveHostnames_eq_ok_iff.mp hok
    have hfree := reserveHostnamesImpl_withholds_none_iff.mp ⟨store'', hres⟩
    grind [prepared_free_iff]
  · intro hagree svc' hprep hunblocked
    obtain ⟨hID, store', hid, himpl, rfl⟩ :=
      HostnameService.prepareHostnamesForTransfer_eq_ok_iff.mp hprep
    have hheld := (prepareHostnamesImpl_eq_ok_iff.mp himpl).1
    have hfree : ∀ n ∈ h.map S.toLower, store' n = none ∨ store' n = some hID := by
      intro m hm
      obtain ⟨n, hn, rfl⟩ := List.mem_map.mp hm
      exact (prepared_free_iff himpl _).mpr (hagree hID hid hheld hunblocked n hn)
    obtain ⟨store'', hres⟩ := reserveHostnamesImpl_withholds_none_iff.mpr hfree
    refine ⟨_, HostnameService.reserveHostnames_eq_ok_iff.mpr ⟨?_, hID, store'', hid, hres, rfl⟩⟩
    refine HostnameService.checkBlocked_eq_ok_iff.mpr fun m hm => ?_
    obtain ⟨n, hn, rfl⟩ := List.mem_map.mp hm
    exact hunblocked n hn

/-- A transfer keeps names exclusive exactly if the spellings agree. -/
theorem transfer_exclusive_iff (svc : HostnameService) (h : List String) (l : LeaseID) :
    RefusesOtherOwner S svc h l ∧ ReservesAfterPrepare S svc h l ↔ SpellingsAgree S svc h l := by
  rw [refusesOtherOwner_iff, reservesAfterPrepare_iff]
  grind [RefusesOtherOwner, ReservesAfterPrepare, SpellingsAgree]

/-- `a.com` is held by one owner, and another one asks for `A.com`. -/
theorem transfer_of_other_spelling :
    let svc : HostnameService :=
      ⟨fun h => if h = "a.com" then some ⟨"owner", 42, 1⟩ else none, [], []⟩
    let l : LeaseID := ⟨"tenant", 7, 1, 1, "provider"⟩
    ¬ RefusesOtherOwner .reference svc ["A.com"] l ∧
      ¬ ReservesAfterPrepare .reference svc ["A.com"] l := by
  intro svc l
  have hid : hostnameIDFromLeaseID .reference l = .ok ⟨"tenant", 7, 1⟩ := rfl
  have hheld : HeldByOwner svc.inUse "tenant" ["A.com"] := by
    intro n hn e he
    rw [List.mem_singleton.mp hn] at he
    cases he
  have hlower : HostnameSdk.reference.toLower "A.com" = "a.com" := by decide +kernel
  have hlowered : HostnameSdk.reference.toLower "a.com" = "a.com" := by decide +kernel
  constructor
  · intro hrefuses
    have howner := refusesOtherOwner_iff.mp hrefuses _ hid hheld "A.com"
      (List.mem_singleton.mpr rfl) "a.com" ⟨"owner", 42, 1⟩ (hlowered.trans hlower.symm) rfl
    revert howner
    decide
  · intro hreserves
    have hunblocked : Unblocked .reference svc ["A.com"] := fun n hn => by
      rfl
    have hfree := reservesAfterPrepare_iff.mp hreserves _ hid hheld hunblocked "A.com"
      (List.mem_singleton.mpr rfl)
    revert hfree
    decide +kernel

end AkashProvider
