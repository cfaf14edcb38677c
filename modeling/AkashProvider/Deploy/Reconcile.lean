import AkashProvider.Bidengine.Order
import AkashProvider.Hostname.Holding
import AkashProvider.Kube.DeclaredIPs

/-!
# Leases that closed while the provider was down

After a start the service compares the leases of the cluster with the chain.  A lease that is
closed on the chain is removed, by its manager or by the pass (`removeUnmanagedLease`), and its
hostnames are released if it is the only one of its group.

* The count of the leases of a group has only those of the provider
  (`reconcile_removes_nothing_alive_iff`).
* It is not taken down when a lease is removed (`reconcile_frees_hostnames_iff`).
-/

namespace AkashProvider

/-! ## The leases of the cluster -/

inductive LabelErr where
  | missingLabel (label : String)
  | invalidLabelValue (field value : String)

def requireLabel (labels : Labels) (label : String) : Except LabelErr String :=
  match labels.lookup label with
  | none => .error (.missingLabel label)
  | some value => .ok value

/-- `strconv.ParseUint` for numbers up to a bound. -/
def labelUint (bound : UInt64) (field value : String) : Except LabelErr UInt64 :=
  match Go.parseUint value with
  | (_, some _) => .error (.invalidLabelValue field value)
  | (n, none) => if n ≤ bound then .ok n else .error (.invalidLabelValue field value)

def maxUint64 : UInt64 := 18446744073709551615

def recoverLeaseIDFromLabels (labels : Labels) : Except LabelErr LeaseID := do
  let dseqS ← requireLabel labels akashLeaseDSeqLabelName
  let gseqS ← requireLabel labels akashLeaseGSeqLabelName
  let oseqS ← requireLabel labels akashLeaseOSeqLabelName
  let owner ← requireLabel labels akashLeaseOwnerLabelName
  let provider ← requireLabel labels akashLeaseProviderLabelName
  let dseq ← labelUint maxUint64 "dseq" dseqS
  let gseq ← labelUint maxUint32 "gseq" gseqS
  let oseq ← labelUint maxUint32 "oesq" oseqS
  .ok ⟨owner, dseq, gseq.toUInt32, oseq.toUInt32, provider⟩

/-- A namespace with the label of the provider. -/
structure ManagedNamespace where
  /-- There is a deletion timestamp. -/
  deleting : Bool
  labels : Labels

/-- A lease is listed once. -/
def addLease (lids : List LeaseID) (lid : LeaseID) : List LeaseID :=
  if lid ∈ lids then lids else lids ++ [lid]

def namespaceLease (ns : ManagedNamespace) : Option LeaseID :=
  if ns.deleting then none else (recoverLeaseIDFromLabels ns.labels).toOption

/-- `LeaseIDs`, of the namespaces and the lease IDs of the manifests. -/
def leaseIDs (S : ManifestSdk) (namespaces : Except String (List ManagedNamespace))
    (manifests : Except String (List Crd.LeaseID)) : Except String (List LeaseID) := do
  let namespaces ← namespaces
  let manifests ← manifests
  .ok ((namespaces.filterMap namespaceLease ++
    manifests.filterMap fun id => (id.fromCRD S).toOption).foldl addLease [])

/-! ## The chain -/

inductive LeaseQueryErr where
  /-- The chain does not know the lease. -/
  | notFound
  | other (text : String)

structure LeasesPage where
  leases : List LeaseID
  nextKey : List UInt8

def errLeasePaginationStalled : String := "lease pagination stalled"

/-- `activeLeases`, on the answers to its queries in order.  Where they end, so does the time of
the pass. -/
def activeLeases : List (Except String LeasesPage) → List UInt8 → List LeaseID →
    Except String (List LeaseID)
  | [], _, _ => .error "context deadline exceeded"
  | .error err :: _, _, _ => .error err
  | .ok resp :: answers, key, active =>
    let active := resp.leases.foldl addLease active
    if resp.nextKey = [] then .ok active
    else if resp.nextKey = key then .error errLeasePaginationStalled
    else activeLeases answers resp.nextKey active

/-- `%s` of a lease ID. -/
def LeaseID.text (id : LeaseID) : String :=
  id.owner ++ "/" ++ Go.formatUint id.dseq ++ "/" ++ formatUint32 id.gseq ++ "/" ++
    formatUint32 id.oseq ++ "/" ++ id.provider

def closedLease (answer : Except LeaseQueryErr ChainLease) (lid : LeaseID) :
    Except String (Option EventLeaseClosed) :=
  match answer with
  | .error .notFound => .ok none
  | .error (.other text) => .error text
  | .ok lease =>
    if lease.id ≠ lid then
      .error ("lease query returned a different ID: " ++ lease.id.text)
    else match lease.state with
      | .closed | .insufficientFunds => .ok (some ⟨lid, lease.reason⟩)
      | .invalid | .active | .reclaiming => .ok none

/-! ## A pass -/

/-- What a pass finds: the cluster, the chain, and how its calls end. -/
structure ReconcileWorld where
  provider : String
  namespaces : Except String (List ManagedNamespace)
  manifests : Except String (List Crd.LeaseID)
  leases : List (Except String LeasesPage)
  lease : LeaseID → Except LeaseQueryErr ChainLease
  /-- The leases that have deployment managers. -/
  managed : LeaseID → Bool
  publish : EventLeaseClosed → Except String Unit
  purgeDeclaredHostnames : LeaseID → Except String Unit
  purgeDeclaredIPs : LeaseID → Except String Unit
  teardownLease : LeaseID → Except String Unit

inductive ReconcileCall where
  | publish (closed : EventLeaseClosed)
  | purgeDeclaredHostnames (lid : LeaseID)
  | purgeDeclaredIPs (lid : LeaseID)
  | releaseHostnames (lid : LeaseID)
  | teardownLease (lid : LeaseID)
deriving DecidableEq

def ReconcileCall.lease : ReconcileCall → LeaseID
  | .publish closed => closed.id
  | .purgeDeclaredHostnames lid | .purgeDeclaredIPs lid | .releaseHostnames lid
  | .teardownLease lid => lid

structure Pass where
  calls : List ReconcileCall
  errs : List String
  hostnames : HostnameService

/-- A call, and its error if there is one. -/
def Pass.call (p : Pass) (c : ReconcileCall) (answer : Except String Unit) : Pass :=
  { p with
    calls := p.calls ++ [c]
    errs := p.errs ++ match answer with
      | .ok () => []
      | .error err => [err] }

section

variable (S : HostnameSdk) (M : ManifestSdk) (W : ReconcileWorld)

def Pass.releaseHostnames (p : Pass) (lid : LeaseID) : Pass :=
  match p.hostnames.releaseHostnames S lid with
  | .ok hostnames => { p.call (.releaseHostnames lid) (.ok ()) with hostnames := hostnames }
  | .error err => p.call (.releaseHostnames lid) (.error (err.message S))

def Pass.removeUnmanagedLease (p : Pass) (lid : LeaseID) (lastOfGroup : Bool) : Pass :=
  let p := (p.call (.purgeDeclaredHostnames lid) (W.purgeDeclaredHostnames lid)).call
    (.purgeDeclaredIPs lid) (W.purgeDeclaredIPs lid)
  if W.purgeDeclaredHostnames lid = .ok () ∧ W.purgeDeclaredIPs lid = .ok () then
    (if lastOfGroup then p.releaseHostnames S lid else p).call (.teardownLease lid)
      (W.teardownLease lid)
  else p

/-- The leases of a group that are in the cluster or active on chain. -/
def groupLeases (active own : List LeaseID) (group : GroupID) : Nat :=
  active.countP (·.groupID = group) + own.countP fun lid => lid ∉ active ∧ lid.groupID = group

def Pass.reconcileLease (active own : List LeaseID) (p : Pass) (lid : LeaseID) : Pass :=
  if lid ∈ active then p
  else match closedLease (W.lease lid) lid with
    | .error err => { p with errs := p.errs ++ [err] }
    | .ok none => p
    | .ok (some closed) =>
      if W.managed lid then p.call (.publish closed) (W.publish closed)
      -- the count is the same in every round
      else p.removeUnmanagedLease S W lid (groupLeases active own lid.groupID = 1)

def reconcileLeasesOnce (hostnames : HostnameService) : Pass :=
  match leaseIDs M W.namespaces W.manifests with
  | .error err => ⟨[], [err], hostnames⟩
  | .ok lids =>
    let own := lids.filter (·.provider = W.provider)
    if own = [] then ⟨[], [], hostnames⟩
    else match activeLeases W.leases [] [] with
      | .error err => ⟨[], [err], hostnames⟩
      | .ok active => own.foldl (Pass.reconcileLease S W active own) ⟨[], [], hostnames⟩

end

/-! ## What the chain says -/

section

variable (W : ReconcileWorld)

/-- The chain reports the lease closed or out of funds. -/
def ReportedClosed (lid : LeaseID) : Prop :=
  ∃ lease, W.lease lid = .ok lease ∧ lease.id = lid ∧
    (lease.state = .closed ∨ lease.state = .insufficientFunds)

/-- The answers that `activeLeases` has read. -/
def pagesRead : List (Except String LeasesPage) → List UInt8 → List (Except String LeasesPage)
  | [], _ => []
  | .error err :: _, _ => [.error err]
  | .ok resp :: answers, key =>
    .ok resp ::
      if resp.nextKey = [] ∨ resp.nextKey = key then [] else pagesRead answers resp.nextKey

/-- The lease is on a page of active leases that the pass has read. -/
def ReportedActive (lid : LeaseID) : Prop :=
  ∃ resp, .ok resp ∈ pagesRead W.leases [] ∧ lid ∈ resp.leases

end

theorem closedLease_eq_some_iff {W : ReconcileWorld} {lid : LeaseID} {closed : EventLeaseClosed} :
    closedLease (W.lease lid) lid = .ok (some closed) ↔
      ∃ lease, W.lease lid = .ok lease ∧ lease.id = lid ∧
        (lease.state = .closed ∨ lease.state = .insufficientFunds) ∧
        closed = ⟨lid, lease.reason⟩ := by
  cases hlease : W.lease lid with
  | error err => cases err <;> simp [closedLease]
  | ok lease => grind [closedLease]

theorem mem_foldl_addLease (l : List LeaseID) : ∀ {lids : List LeaseID} {lid : LeaseID},
    lid ∈ l.foldl addLease lids ↔ lid ∈ lids ∨ lid ∈ l := by
  induction l with
  | nil => simp
  | cons a l ih => grind [addLease]

theorem nodup_foldl_addLease (l : List LeaseID) : ∀ {lids : List LeaseID}, lids.Nodup →
    (l.foldl addLease lids).Nodup := by
  induction l with
  | nil => exact id
  | cons a l ih =>
    intro lids h
    refine ih ?_
    simp only [addLease]
    grind

theorem nodup_leaseIDs {M : ManifestSdk} {namespaces : Except String (List ManagedNamespace)}
    {manifests : Except String (List Crd.LeaseID)} {lids : List LeaseID}
    (h : leaseIDs M namespaces manifests = .ok lids) : lids.Nodup := by
  obtain ⟨ns, -, h⟩ := Except.bind_eq_ok_iff.mp h
  obtain ⟨ms, -, h⟩ := Except.bind_eq_ok_iff.mp h
  cases h
  exact nodup_foldl_addLease _ List.nodup_nil

theorem mem_activeLeases (answers : List (Except String LeasesPage)) :
    ∀ {key : List UInt8} {before active : List LeaseID},
      activeLeases answers key before = .ok active → ∀ lid,
        lid ∈ active ↔ lid ∈ before ∨
          ∃ resp, .ok resp ∈ pagesRead answers key ∧ lid ∈ resp.leases := by
  induction answers with
  | nil =>
    intro key before active h
    cases h
  | cons answer answers ih =>
    intro key before active h lid
    cases answer with
    | error err => cases h
    | ok resp => grind [activeLeases, pagesRead, mem_foldl_addLease]

theorem activeLeases_ne_ok (answers : List (Except String LeasesPage)) :
    ∀ {key : List UInt8} {before active : List LeaseID} {err : String},
      .error err ∈ pagesRead answers key → activeLeases answers key before ≠ .ok active := by
  induction answers with
  | nil =>
    intro key before active err h
    cases h
  | cons answer answers ih =>
    intro key before active err h
    cases answer with
    | error err => exact fun hok => by cases hok
    | ok resp => grind [pagesRead, activeLeases]

/-! ## One round -/

section

variable {S : HostnameSdk} {W : ReconcileWorld} {active own : List LeaseID}

/-- The pass releases the hostnames of the lease. -/
@[grind cases]
structure Releases (W : ReconcileWorld) (active own : List LeaseID) (lid : LeaseID) : Prop where
  not_active : lid ∉ active
  closed : ReportedClosed W lid
  unmanaged : W.managed lid = false
  purge_hostnames : W.purgeDeclaredHostnames lid = .ok ()
  purge_ips : W.purgeDeclaredIPs lid = .ok ()
  last : groupLeases active own lid.groupID = 1

theorem Pass.releaseHostnames_calls (p : Pass) (lid : LeaseID) :
    (p.releaseHostnames S lid).calls = p.calls ++ [.releaseHostnames lid] := by
  simp only [Pass.releaseHostnames]
  split <;> rfl

theorem Pass.releaseHostnames_inUse (p : Pass) (lid : LeaseID) (h : String)
    [Decidable (p.hostnames.HeldBy S lid h)] :
    (p.releaseHostnames S lid).hostnames.inUse h =
      if p.hostnames.HeldBy S lid h then none else p.hostnames.inUse h := by
  cases hid : hostnameIDFromLeaseID S lid with
  | error err =>
    have hnot : ¬ p.hostnames.HeldBy S lid h := by
      rintro ⟨hID, hok, -⟩
      cases hid.symm.trans hok
    simp [Pass.releaseHostnames, HostnameService.releaseHostnames, hid, hnot, Pass.call, bind,
      Except.bind]
  | ok hID =>
    simp_all [HostnameService.HeldBy, Pass.releaseHostnames, HostnameService.releaseHostnames,
      releaseHostnamesImpl_apply, bind, Except.bind]

/-- The pass has gone on by rounds for some leases. -/
@[grind cases]
structure Rounds (S : HostnameSdk) (W : ReconcileWorld) (active own : List LeaseID)
    (p p' : Pass) (lids : List LeaseID) : Prop where
  /-- Calls are for leases that the chain reports closed. -/
  calls : ∀ c ∈ p'.calls, c ∈ p.calls ∨ c.lease ∈ lids ∧ c.lease ∉ active ∧ ReportedClosed W c.lease
  release : ∀ lid, .releaseHostnames lid ∈ p'.calls ↔
    .releaseHostnames lid ∈ p.calls ∨ lid ∈ lids ∧ Releases W active own lid
  freed : ∀ lid ∈ lids, Releases W active own lid → ∀ h, p.hostnames.HeldBy S lid h →
    p'.hostnames.inUse h = none
  kept : ∀ h, (∀ lid ∈ lids, Releases W active own lid → ¬ p.hostnames.HeldBy S lid h) →
    p'.hostnames.inUse h = p.hostnames.inUse h
  /-- Without an error, what had to be purged was. -/
  errs : p'.errs = [] → p.errs = [] ∧ ∀ lid ∈ lids, lid ∉ active → ReportedClosed W lid →
    W.managed lid = false →
    W.purgeDeclaredHostnames lid = .ok () ∧ W.purgeDeclaredIPs lid = .ok ()

theorem Rounds.refl (p : Pass) : Rounds S W active own p p [] where
  calls _ hc := .inl hc
  release _ := ⟨.inl, fun h => h.elim id fun h => absurd h.1 List.not_mem_nil⟩
  freed _ hlid := absurd hlid List.not_mem_nil
  kept _ _ := rfl
  errs h := ⟨h, fun _ hlid => absurd hlid List.not_mem_nil⟩

theorem Rounds.trans {p p' p'' : Pass} {l l' : List LeaseID}
    (h : Rounds S W active own p p' l) (h' : Rounds S W active own p' p'' l') :
    Rounds S W active own p p'' (l ++ l') where
  calls c hc := by grind
  release lid := by rw [h'.release, h.release, List.mem_append, or_and_right, or_assoc]
  freed lid hlid hrel name hheld := by
    -- a name that is free is not reserved to anyone
    by_cases hbefore : ∃ lid' ∈ l, Releases W active own lid' ∧ p.hostnames.HeldBy S lid' name
    · grind
    · have hsame := h.kept name fun lid' hlid' hrel' hheld' => hbefore ⟨lid', hlid', hrel', hheld'⟩
      rcases List.mem_append.mp hlid with hlid | hlid
      · exact absurd ⟨lid, hlid, hrel, hheld⟩ hbefore
      · obtain ⟨hID, hok, hsome⟩ := hheld
        exact h'.freed lid hlid hrel name ⟨hID, hok, hsame.trans hsome⟩
  kept name hnot := by
    have hsame := h.kept name fun lid hlid => hnot lid (List.mem_append_left _ hlid)
    rw [← hsame]
    refine h'.kept name fun lid hlid hrel hheld => ?_
    obtain ⟨hID, hok, hsome⟩ := hheld
    exact hnot lid (List.mem_append_right _ hlid) hrel ⟨hID, hok, hsame ▸ hsome⟩
  errs herrs := by grind

variable {lid : LeaseID} {p : Pass}

theorem Rounds.skip (errs : List String) (hnot : lid ∈ active ∨ ¬ ReportedClosed W lid) :
    Rounds S W active own p { p with errs := p.errs ++ errs } [lid] := by
  constructor <;> grind [List.append_eq_nil_iff, ReportedClosed]

theorem Rounds.of_calls {p p' : Pass} (calls : List ReconcileCall) (hactive : lid ∉ active)
    (hclosed : ReportedClosed W lid) (hrel : ¬ Releases W active own lid)
    (hcalls : p'.calls = p.calls ++ calls)
    (hlease : ∀ c ∈ calls, c.lease = lid ∧ ∀ l, c ≠ .releaseHostnames l)
    (hnames : p'.hostnames = p.hostnames)
    (herrs : p'.errs = [] → p.errs = [] ∧ (W.managed lid = false →
      W.purgeDeclaredHostnames lid = .ok () ∧ W.purgeDeclaredIPs lid = .ok ())) :
    Rounds S W active own p p' [lid] := by
  constructor <;> grind [ReportedClosed, purgeDeclaredIPs]

theorem Pass.call_errs_eq_nil {c : ReconcileCall} {answer : Except String Unit}
    (h : (p.call c answer).errs = []) : p.errs = [] ∧ answer = .ok () := by
  obtain ⟨herrs, hanswer⟩ := List.append_eq_nil_iff.mp h
  cases answer with
  | error err => cases hanswer
  | ok u => exact ⟨herrs, rfl⟩

theorem Pass.releaseHostnames_errs_eq_nil (h : (p.releaseHostnames S lid).errs = []) :
    p.errs = [] := by
  simp only [Pass.releaseHostnames] at h
  split at h
  · exact (List.append_eq_nil_iff.mp h).1
  · exact (Pass.call_errs_eq_nil h).1

/-- A removal whose purges succeed releases the hostnames between them and the teardown. -/
theorem removeUnmanagedLease_of_releases (hrel : Releases W active own lid) :
    p.removeUnmanagedLease S W lid true =
      (((p.call (.purgeDeclaredHostnames lid) (W.purgeDeclaredHostnames lid)).call
        (.purgeDeclaredIPs lid) (W.purgeDeclaredIPs lid)).releaseHostnames S lid).call
        (.teardownLease lid) (W.teardownLease lid) := by
  simp only [Pass.removeUnmanagedLease, hrel.purge_hostnames, hrel.purge_ips, and_self, if_true]

theorem calls_of_releases (hrel : Releases W active own lid) :
    (p.removeUnmanagedLease S W lid true).calls = p.calls ++
      [.purgeDeclaredHostnames lid, .purgeDeclaredIPs lid, .releaseHostnames lid,
        .teardownLease lid] := by
  rw [removeUnmanagedLease_of_releases hrel]
  simp only [Pass.call, Pass.releaseHostnames_calls, List.append_assoc, List.cons_append,
    List.nil_append]

theorem Rounds.of_release (hrel : Releases W active own lid) :
    Rounds S W active own p (p.removeUnmanagedLease S W lid true) [lid] := by
  have hremove := removeUnmanagedLease_of_releases (S := S) (p := p) hrel
  have hcalls := calls_of_releases (S := S) (p := p) hrel
  classical
  have hnames (h : String) : (p.removeUnmanagedLease S W lid true).hostnames.inUse h =
      if p.hostnames.HeldBy S lid h then none else p.hostnames.inUse h := by
    rw [hremove]
    exact Pass.releaseHostnames_inUse _ lid h
  refine ⟨fun c hc => ?_, fun l => ?_, fun l hmem _ h hheld => ?_, fun h hnot => ?_,
    fun herrs => ?_⟩
  · rw [hcalls, List.mem_append] at hc
    refine hc.imp_right fun hc => ?_
    have hlease : c.lease = lid := by
      simp only [List.mem_cons, List.not_mem_nil, or_false] at hc
      rcases hc with rfl | rfl | rfl | rfl <;> rfl
    rw [hlease]
    exact ⟨List.mem_singleton.mpr rfl, hrel.not_active, hrel.closed⟩
  · grind
  · simp_all
  · rw [hnames, if_neg (hnot lid (List.mem_singleton.mpr rfl) hrel)]
  grind [Pass.releaseHostnames_errs_eq_nil, Pass.call_errs_eq_nil]

/-- A round that removes the lease, without a release if there is no reason for it. -/
theorem Rounds.of_remove (hactive : lid ∉ active) (hclosed : ReportedClosed W lid)
    (hunmanaged : W.managed lid = false) :
    Rounds S W active own p
      (p.removeUnmanagedLease S W lid (groupLeases active own lid.groupID = 1)) [lid] := by
  by_cases hrel : Releases W active own lid
  · rw [decide_eq_true hrel.last]
    exact .of_release hrel
  by_cases hpurged : W.purgeDeclaredHostnames lid = .ok () ∧ W.purgeDeclaredIPs lid = .ok ()
  · have hlast : groupLeases active own lid.groupID ≠ 1 := fun hlast =>
      hrel ⟨hactive, hclosed, hunmanaged, hpurged.1, hpurged.2, hlast⟩
    rw [decide_eq_false hlast]
    refine .of_calls [.purgeDeclaredHostnames lid, .purgeDeclaredIPs lid, .teardownLease lid]
      hactive hclosed hrel ?_ ?_ ?_ (by grind [Pass.removeUnmanagedLease, Pass.call_errs_eq_nil])
    all_goals simp [Pass.removeUnmanagedLease, hpurged, Pass.call, ReconcileCall.lease]
  · refine .of_calls [.purgeDeclaredHostnames lid, .purgeDeclaredIPs lid] hactive hclosed hrel
      ?_ ?_ ?_ (by grind [Pass.removeUnmanagedLease, Pass.call_errs_eq_nil])
    all_goals simp [Pass.removeUnmanagedLease, hpurged, Pass.call, ReconcileCall.lease]

theorem not_reportedClosed (h : ∀ closed, closedLease (W.lease lid) lid ≠ .ok (some closed)) :
    ¬ ReportedClosed W lid := by
  rintro ⟨lease, hlease, hid, hstate⟩
  exact h _ (closedLease_eq_some_iff.mpr ⟨lease, hlease, hid, hstate, rfl⟩)

theorem reconcileLease_rounds (p : Pass) (lid : LeaseID) :
    Rounds S W active own p (p.reconcileLease S W active own lid) [lid] := by
  have hskip (hnot : lid ∈ active ∨ ¬ ReportedClosed W lid) : Rounds S W active own p p [lid] := by
    have h : Rounds S W active own p { p with errs := p.errs ++ [] } [lid] := .skip [] hnot
    rwa [List.append_nil] at h
  by_cases hactive : lid ∈ active
  · rw [Pass.reconcileLease, if_pos hactive]
    exact hskip (.inl hactive)
  · rw [Pass.reconcileLease, if_neg hactive]
    cases hanswer : closedLease (W.lease lid) lid with
    | error err => exact .skip [err] (.inr (not_reportedClosed fun closed => by simp [hanswer]))
    | ok answer =>
      cases answer with
      | none => exact hskip (.inr (not_reportedClosed fun closed => by simp [hanswer]))
      | some closed =>
        obtain ⟨lease, hlease, hid, hstate, rfl⟩ := closedLease_eq_some_iff.mp hanswer
        have hclosed : ReportedClosed W lid := ⟨lease, hlease, hid, hstate⟩
        by_cases hmanaged : W.managed lid = true
        · simp only [hmanaged, if_true]
          refine .of_calls [.publish ⟨lid, lease.reason⟩] hactive hclosed
            (fun h => absurd h.unmanaged (by simp [hmanaged])) rfl ?_ rfl ?_
          · simp [ReconcileCall.lease]
          · exact fun herrs => ⟨(Pass.call_errs_eq_nil herrs).1, by simp [hmanaged]⟩
        · simp only [hmanaged, Bool.false_eq_true, if_false]
          exact .of_remove hactive hclosed (by simpa using hmanaged)

theorem reconcileLease_foldl (lids : List LeaseID) : ∀ p : Pass,
    Rounds S W active own p (lids.foldl (Pass.reconcileLease S W active own) p) lids := by
  induction lids with
  | nil => exact fun p => .refl p
  | cons lid lids ih => exact fun p => (reconcileLease_rounds p lid).trans (ih _)

theorem groupLeases_eq_one_iff (hnodup : own.Nodup) (hlid : lid ∈ own) (hactive : lid ∉ active) :
    groupLeases active own lid.groupID = 1 ↔
      (∀ lid' ∈ active, lid'.groupID ≠ lid.groupID) ∧
        ∀ lid' ∈ own, lid'.groupID = lid.groupID → lid' = lid := by
  have hpos : 0 < own.countP fun l => l ∉ active ∧ l.groupID = lid.groupID :=
    List.countP_pos_iff.mpr ⟨lid, hlid, by simp [hactive]⟩
  constructor
  · intro hone
    have hnone : active.countP (·.groupID = lid.groupID) = 0 := by grind [groupLeases]
    have hsingle : (own.filter fun l => l ∉ active ∧ l.groupID = lid.groupID).length = 1 := by
      grind [groupLeases]
    obtain ⟨x, hx⟩ := List.length_eq_one_iff.mp hsingle
    have hmem (l : LeaseID) : l ∈ own ∧ l ∉ active ∧ l.groupID = lid.groupID ↔ l = x := by
      have := congrArg (l ∈ ·) hx
      simpa using this
    grind
  · rintro ⟨hothers, honly⟩
    have hnone : active.countP (·.groupID = lid.groupID) = 0 :=
      List.countP_eq_zero.mpr fun l hl => by simpa using hothers l hl
    have hcount : (own.countP fun l => l ∉ active ∧ l.groupID = lid.groupID) = own.count lid :=
      List.countP_congr fun l hl => by grind
    rw [groupLeases, hnone, hcount, List.count_eq_one_of_mem hnodup hlid]

end

/-! ## A whole pass -/

section

variable (M : ManifestSdk) (W : ReconcileWorld)

def Listed (lid : LeaseID) : Prop :=
  ∃ lids, leaseIDs M W.namespaces W.manifests = .ok lids ∧ lid ∈ lids

def OwnListed (lid : LeaseID) : Prop := Listed M W lid ∧ lid.provider = W.provider

/-- The pass gets to the lease, which is closed and has no manager, its hostnames and IPs could be
purged, and it is the only one of its group that is the provider's or active. -/
@[grind cases]
structure ReleasedFor (lid : LeaseID) : Prop where
  listed : OwnListed M W lid
  pages : ∃ active, activeLeases W.leases [] [] = .ok active
  closed : ReportedClosed W lid
  unmanaged : W.managed lid = false
  purge_hostnames : W.purgeDeclaredHostnames lid = .ok ()
  purge_ips : W.purgeDeclaredIPs lid = .ok ()
  none_active : ∀ lid', ReportedActive W lid' → lid'.groupID ≠ lid.groupID
  only : ∀ lid', OwnListed M W lid' → lid'.groupID = lid.groupID → lid' = lid

end

section

variable {S : HostnameSdk} {M : ManifestSdk} {W : ReconcileWorld} {hostnames : HostnameService}

variable {lids : List LeaseID}

theorem listed_iff (hlids : leaseIDs M W.namespaces W.manifests = .ok lids) (lid : LeaseID) :
    Listed M W lid ↔ lid ∈ lids := by
  constructor
  · rintro ⟨lids', hlids', hmem⟩
    cases hlids.symm.trans hlids'
    exact hmem
  · exact fun hmem => ⟨lids, hlids, hmem⟩

theorem ownListed_iff (hlids : leaseIDs M W.namespaces W.manifests = .ok lids) (lid : LeaseID) :
    OwnListed M W lid ↔ lid ∈ lids.filter (·.provider = W.provider) := by
  rw [OwnListed, listed_iff hlids, List.mem_filter, decide_eq_true_eq]

theorem reportedActive_iff {active : List LeaseID}
    (hactive : activeLeases W.leases [] [] = .ok active) (lid : LeaseID) :
    ReportedActive W lid ↔ lid ∈ active := by
  rw [mem_activeLeases W.leases hactive lid]
  exact (or_iff_right List.not_mem_nil).symm

theorem releasedFor_iff {lids active : List LeaseID}
    (hlids : leaseIDs M W.namespaces W.manifests = .ok lids)
    (hactive : activeLeases W.leases [] [] = .ok active) (lid : LeaseID) :
    ReleasedFor M W lid ↔ lid ∈ lids.filter (·.provider = W.provider) ∧
      Releases W active (lids.filter (·.provider = W.provider)) lid := by
  have hnodup : (lids.filter (·.provider = W.provider)).Nodup := (nodup_leaseIDs hlids).filter _
  have hown := ownListed_iff hlids
  have hreported := reportedActive_iff hactive
  constructor
  · intro h
    have hnot : lid ∉ active := fun hin => h.none_active lid ((hreported lid).mpr hin) rfl
    refine ⟨(hown lid).mp h.listed, hnot, h.closed, h.unmanaged, h.purge_hostnames, h.purge_ips, ?_⟩
    grind [groupLeases_eq_one_iff]
  · rintro ⟨hmem, h⟩
    obtain ⟨hothers, honly⟩ := (groupLeases_eq_one_iff hnodup hmem h.not_active).mp h.last
    exact ⟨(hown lid).mpr hmem, ⟨active, hactive⟩, h.closed, h.unmanaged, h.purge_hostnames,
      h.purge_ips, fun lid' hin => hothers lid' ((hreported lid').mp hin),
      fun lid' hin => honly lid' ((hown lid').mp hin)⟩

/-- A pass gets to its loop, or it calls nothing: a listing failed, or there is no lease of the
provider. -/
theorem reconcileLeasesOnce_cases (S : HostnameSdk) (M : ManifestSdk) (W : ReconcileWorld)
    (hostnames : HostnameService) :
    (∃ lids active, leaseIDs M W.namespaces W.manifests = .ok lids ∧
      activeLeases W.leases [] [] = .ok active ∧
      Rounds S W active (lids.filter (·.provider = W.provider)) ⟨[], [], hostnames⟩
        (reconcileLeasesOnce S M W hostnames) (lids.filter (·.provider = W.provider))) ∨
    (reconcileLeasesOnce S M W hostnames).calls = [] ∧
      (reconcileLeasesOnce S M W hostnames).hostnames = hostnames ∧
      ((reconcileLeasesOnce S M W hostnames).errs = [] ∨
        (∃ active, activeLeases W.leases [] [] = .ok active) → ∀ lid, ¬ OwnListed M W lid) := by
  cases hlids : leaseIDs M W.namespaces W.manifests with
  | error err =>
    have hnone (lid : LeaseID) : ¬ OwnListed M W lid := by
      rintro ⟨⟨lids, hok, -⟩, -⟩
      cases hlids.symm.trans hok
    grind [reconcileLeasesOnce]
  | ok lids =>
    by_cases hown : lids.filter (·.provider = W.provider) = []
    · grind [reconcileLeasesOnce, ownListed_iff]
    · cases hactive : activeLeases W.leases [] [] <;>
        grind [reconcileLeasesOnce, reconcileLease_foldl]

theorem release_mem_calls_iff (lid : LeaseID) :
    .releaseHostnames lid ∈ (reconcileLeasesOnce S M W hostnames).calls ↔ ReleasedFor M W lid := by
  obtain ⟨lids, active, hlids, hactive, hrounds⟩ | ⟨hcalls, -, hnone⟩ :=
    reconcileLeasesOnce_cases S M W hostnames
  · rw [hrounds.release, releasedFor_iff hlids hactive]
    exact or_iff_right List.not_mem_nil
  · rw [hcalls]
    exact iff_of_false List.not_mem_nil fun h => hnone (.inr h.pages) lid h.listed

/-! ## Nothing alive is removed -/

/-- The leases that a pass removes are the provider's and closed.  It releases the hostnames of a
group if no other lease of it is listed or active, and does nothing if a listing fails. -/
@[grind cases]
structure RemovesNothingAlive (S : HostnameSdk) (M : ManifestSdk) (W : ReconcileWorld)
    (hostnames : HostnameService) : Prop where
  closed : ∀ c ∈ (reconcileLeasesOnce S M W hostnames).calls,
    c.lease.provider = W.provider ∧ ReportedClosed W c.lease
  released : ∀ lid, .releaseHostnames lid ∈ (reconcileLeasesOnce S M W hostnames).calls →
    ∀ lid', lid' ≠ lid → lid'.groupID = lid.groupID → ¬ Listed M W lid' ∧ ¬ ReportedActive W lid'
  listing : ∀ err, W.namespaces = .error err ∨ W.manifests = .error err →
    (reconcileLeasesOnce S M W hostnames).calls = []
  page : ∀ err, .error err ∈ pagesRead W.leases [] ∨ activeLeases W.leases [] [] = .error err →
    (reconcileLeasesOnce S M W hostnames).calls = []

theorem leaseIDs_ne_ok {err : String} (h : W.namespaces = .error err ∨ W.manifests = .error err) :
    leaseIDs M W.namespaces W.manifests ≠ .ok lids := by
  intro hok
  obtain ⟨ns, hns, hok⟩ := Except.bind_eq_ok_iff.mp hok
  grind [Except.bind_eq_ok_iff]

/-- A pass removes nothing alive exactly if all leases of the cluster in a group whose hostnames it
releases are the provider's. -/
theorem reconcile_removes_nothing_alive_iff (S : HostnameSdk) (M : ManifestSdk)
    (W : ReconcileWorld) (hostnames : HostnameService) :
    RemovesNothingAlive S M W hostnames ↔
      ∀ lid, ReleasedFor M W lid → ∀ lid', Listed M W lid' → lid'.groupID = lid.groupID →
        lid'.provider = W.provider := by
  constructor
  · intro h lid hrel lid' hlisted hgroup
    by_contra hprovider
    have hne : lid' ≠ lid := fun heq => hprovider (heq ▸ hrel.listed.2)
    exact (h.released lid ((release_mem_calls_iff lid).mpr hrel) lid' hne hgroup).1 hlisted
  · intro h
    have hcases := reconcileLeasesOnce_cases S M W hostnames
    refine ⟨by grind, fun lid hc lid' hne hgroup => ?_, by grind [leaseIDs_ne_ok],
      by grind [activeLeases_ne_ok]⟩
    have hrel := (release_mem_calls_iff lid).mp hc
    refine ⟨fun hlisted => hne ?_, fun hactive => hrel.none_active lid' hactive hgroup⟩
    exact hrel.only lid' ⟨hlisted, h lid hrel lid' hlisted hgroup⟩ hgroup

/-! ## The hostnames of dead groups -/

/-- A hostname is reserved to the group. -/
def ReservedTo (S : HostnameSdk) (hostnames : HostnameService) (group : GroupID) : Prop :=
  ∃ lid h, lid.groupID = group ∧ hostnames.HeldBy S lid h

/-- The owner of a group is written in one way. -/
def OwnerWritten (S : HostnameSdk) (M : ManifestSdk) (W : ReconcileWorld) (group : GroupID) :
    Prop :=
  ∀ lid, Listed M W lid → ∀ addr, S.accAddressFromBech32 lid.owner = some addr →
    S.accAddressFromBech32 group.owner = some addr → lid.owner = group.owner

variable {name : String}

theorem heldBy_congr {svc : HostnameService} {lid lid' : LeaseID} (h : lid.groupID = lid'.groupID)
    (hheld : svc.HeldBy S lid name) : svc.HeldBy S lid' name := by
  simp only [LeaseID.groupID, GroupID.mk.injEq] at h
  obtain ⟨howner, hdseq, hgseq⟩ := h
  obtain ⟨hID, hok, hsome⟩ := hheld
  obtain ⟨haddr, hd, hg⟩ := hostnameIDFromLeaseID_eq_ok_iff.mp hok
  exact ⟨hID, hostnameIDFromLeaseID_eq_ok_iff.mpr
    ⟨howner ▸ haddr, hd.trans hdseq, hg.trans hgseq⟩, hsome⟩

/-- A hostname is free after a pass if it was reserved to a group that the pass has released;
nothing else changes. -/
theorem inUse_reconcileLeasesOnce (S : HostnameSdk) (M : ManifestSdk) (W : ReconcileWorld)
    (hostnames : HostnameService) (name : String) :
    (reconcileLeasesOnce S M W hostnames).hostnames.inUse name = hostnames.inUse name ∨
      (reconcileLeasesOnce S M W hostnames).hostnames.inUse name = none ∧
        ∃ lid, ReleasedFor M W lid ∧ hostnames.HeldBy S lid name := by
  obtain ⟨lids, active, hlids, hactive, hrounds⟩ | ⟨-, hnames, -⟩ :=
    reconcileLeasesOnce_cases S M W hostnames
  · by_cases hheld : ∃ lid, ReleasedFor M W lid ∧ hostnames.HeldBy S lid name
    · grind
    · refine .inl (hrounds.kept name fun lid hmem hrel hlid => hheld ?_)
      grind [releasedFor_iff]
  · exact .inl (by rw [hnames])

variable {lid : LeaseID}

theorem ReleasedFor.free (hrel : ReleasedFor M W lid) (hheld : hostnames.HeldBy S lid name) :
    (reconcileLeasesOnce S M W hostnames).hostnames.inUse name = none := by
  obtain ⟨lids, active, hlids, hactive, hrounds⟩ | ⟨-, -, hnone⟩ :=
    reconcileLeasesOnce_cases S M W hostnames
  · obtain ⟨hmem, hrel'⟩ := (releasedFor_iff hlids hactive lid).mp hrel
    exact hrounds.freed lid hmem hrel' name hheld
  · exact absurd hrel.listed (hnone (.inr hrel.pages) lid)

/-- In a pass without an error, a closed lease that is the only one of its group is released. -/
theorem ReleasedFor.of_errs_eq_nil (herrs : (reconcileLeasesOnce S M W hostnames).errs = [])
    (hlisted : OwnListed M W lid) (hclosed : ReportedClosed W lid)
    (hunmanaged : W.managed lid = false)
    (hactive : ∀ lid', ReportedActive W lid' → lid'.groupID ≠ lid.groupID)
    (honly : ∀ lid', OwnListed M W lid' → lid'.groupID = lid.groupID → lid' = lid) :
    ReleasedFor M W lid := by
  obtain ⟨lids, active, hlids, hpages, hrounds⟩ | ⟨-, -, hnone⟩ :=
    reconcileLeasesOnce_cases S M W hostnames
  · have hmem := (ownListed_iff hlids lid).mp hlisted
    have hnot : lid ∉ active := fun hin => hactive lid ((reportedActive_iff hpages lid).mpr hin) rfl
    obtain ⟨hhostnames, hips⟩ := (hrounds.errs herrs).2 lid hmem hnot hclosed hunmanaged
    exact ⟨hlisted, ⟨active, hpages⟩, hclosed, hunmanaged, hhostnames, hips, hactive, honly⟩
  · exact absurd hlisted (hnone (.inl herrs) lid)

theorem heldBy_of_pass (h : (reconcileLeasesOnce S M W hostnames).hostnames.HeldBy S lid name) :
    hostnames.HeldBy S lid name := by
  obtain ⟨hID, hok, hsome⟩ := h
  obtain hsame | ⟨hnone, -⟩ := inUse_reconcileLeasesOnce S M W hostnames name
  · exact ⟨hID, hok, hsame ▸ hsome⟩
  · cases hnone.symm.trans hsome

/-- A group whose leases are all closed has no hostnames after a pass without an error exactly if it
had none, or the provider has exactly one lease of it in the cluster. -/
theorem reconcile_frees_hostnames_iff {group : GroupID}
    (hclosed : ∀ lid, Listed M W lid → lid.groupID = group →
      ReportedClosed W lid ∧ W.managed lid = false)
    (hactive : ∀ lid, lid.groupID = group → ¬ ReportedActive W lid)
    (hwritten : OwnerWritten S M W group)
    (herrs : (reconcileLeasesOnce S M W hostnames).errs = []) :
    ¬ ReservedTo S (reconcileLeasesOnce S M W hostnames).hostnames group ↔
      (∃ lid, OwnListed M W lid ∧ lid.groupID = group ∧
        ∀ lid', OwnListed M W lid' → lid'.groupID = group → lid' = lid) ∨
      ¬ ReservedTo S hostnames group := by
  constructor
  · intro hafter
    refine or_iff_not_imp_right.mpr fun hbefore => ?_
    obtain ⟨lid, name, rfl, hID, hok, hsome⟩ := not_not.mp hbefore
    obtain hsame | ⟨-, lid', hrel, hheld'⟩ := inUse_reconcileLeasesOnce S M W hostnames name
    · exact absurd ⟨lid, name, rfl, hID, hok, hsame.trans hsome⟩ hafter
    · -- the name was released for a lease with the same holder, which is one of the group
      obtain ⟨hID', hok', hsome'⟩ := hheld'
      obtain rfl : hID = hID' := Option.some.inj (hsome.symm.trans hsome')
      obtain ⟨haddr, hdseq, hgseq⟩ := hostnameIDFromLeaseID_eq_ok_iff.mp hok
      obtain ⟨haddr', hdseq', hgseq'⟩ := hostnameIDFromLeaseID_eq_ok_iff.mp hok'
      have howner : lid'.owner = lid.owner := hwritten lid' hrel.listed.1 hID.owner haddr' haddr
      have hgroup : lid'.groupID = lid.groupID := by
        simp only [LeaseID.groupID, howner, ← hdseq, ← hdseq', ← hgseq, ← hgseq']
      exact ⟨lid', hrel.listed, hgroup, fun l hl hg => hrel.only l hl (hg.trans hgroup.symm)⟩
  · rintro (⟨lid, hlisted, rfl, honly⟩ | hbefore)
    · obtain ⟨hreported, hunmanaged⟩ := hclosed lid hlisted.1 rfl
      have hrel := ReleasedFor.of_errs_eq_nil herrs hlisted hreported hunmanaged
        (fun lid' hin hg => hactive lid' hg hin) honly
      rintro ⟨lid', name, hgroup, hheld⟩
      have hnone := hrel.free (heldBy_congr hgroup (heldBy_of_pass hheld))
      obtain ⟨hID, -, hsome⟩ := hheld
      cases hnone.symm.trans hsome
    · rintro ⟨lid, name, hgroup, hheld⟩
      exact hbefore ⟨lid, name, hgroup, heldBy_of_pass hheld⟩

end

/-! ## Two leases of a group -/

def leaseNamespace (lid : LeaseID) : ManagedNamespace where
  deleting := false
  labels := appendLeaseLabels lid []

/-- A pass that finds the namespaces of some leases.  The chain reports every lease closed, and
all calls go well. -/
def closedWorld (lids : List LeaseID) : ReconcileWorld where
  provider := "provider"
  namespaces := .ok (lids.map leaseNamespace)
  manifests := .ok []
  leases := [.ok ⟨[], []⟩]
  lease lid := .ok ⟨lid, .closed, 1⟩
  managed _ := false
  publish _ := .ok ()
  purgeDeclaredHostnames _ := .ok ()
  purgeDeclaredIPs _ := .ok ()
  teardownLease _ := .ok ()

/-- The first two orders of a group. -/
def leaseOf (oseq : UInt32) (provider : String) : LeaseID := ⟨"owner", 42, 1, oseq, provider⟩

def reservedService : HostnameService where
  inUse h := if h = "a.com" then some ⟨"owner", 42, 1⟩ else none
  blockedHostnames := []
  blockedDomains := []

/-- Another provider has a lease of the group.  The hostnames are released with the lease of this
one. -/
theorem reconcile_releases_other_provider :
    ¬ RemovesNothingAlive .reference .reference
      (closedWorld [leaseOf 1 "provider", leaseOf 2 "other"]) reservedService := by
  intro h
  have hlisted : Listed .reference (closedWorld [leaseOf 1 "provider", leaseOf 2 "other"])
      (leaseOf 2 "other") :=
    ⟨[leaseOf 1 "provider", leaseOf 2 "other"], by decide +kernel, by decide⟩
  exact (h.released (leaseOf 1 "provider") (by decide +kernel) (leaseOf 2 "other") (by decide)
    rfl).1 hlisted

/-- Two leases of the group are closed.  The pass removes both without an error, and the hostname
is still reserved. -/
theorem reconcile_keeps_hostname_of_dead_group :
    (reconcileLeasesOnce .reference .reference
        (closedWorld [leaseOf 1 "provider", leaseOf 2 "provider"]) reservedService).errs = [] ∧
      (reconcileLeasesOnce .reference .reference
        (closedWorld [leaseOf 1 "provider", leaseOf 2 "provider"]) reservedService).calls =
          [.purgeDeclaredHostnames (leaseOf 1 "provider"), .purgeDeclaredIPs (leaseOf 1 "provider"),
            .teardownLease (leaseOf 1 "provider"), .purgeDeclaredHostnames (leaseOf 2 "provider"),
            .purgeDeclaredIPs (leaseOf 2 "provider"), .teardownLease (leaseOf 2 "provider")] ∧
      ReservedTo .reference (reconcileLeasesOnce .reference .reference
        (closedWorld [leaseOf 1 "provider", leaseOf 2 "provider"]) reservedService).hostnames
          ⟨"owner", 42, 1⟩ :=
  ⟨by decide +kernel, by decide +kernel, leaseOf 1 "provider", "a.com", rfl, ⟨"owner", 42, 1⟩,
    by decide +kernel, by decide +kernel⟩

/-- With one lease the hostname is free. -/
theorem reconcile_frees_hostname_of_one :
    ¬ ReservedTo .reference (reconcileLeasesOnce .reference .reference
      (closedWorld [leaseOf 1 "provider"]) reservedService).hostnames ⟨"owner", 42, 1⟩ := by
  have hlids : leaseIDs .reference (closedWorld [leaseOf 1 "provider"]).namespaces
      (closedWorld [leaseOf 1 "provider"]).manifests = .ok [leaseOf 1 "provider"] := by
    decide +kernel
  refine (reconcile_frees_hostnames_iff ?_ ?_ ?_ (by decide +kernel)).mpr (.inl ?_)
  · exact fun lid _ _ => ⟨⟨⟨lid, .closed, 1⟩, rfl, rfl, .inl rfl⟩, rfl⟩
  · rintro lid - ⟨resp, hresp, hmem⟩
    obtain rfl : resp = ⟨[], []⟩ := Except.ok.inj (List.mem_singleton.mp hresp)
    cases hmem
  · intro lid hlisted addr _ _
    obtain rfl := List.mem_singleton.mp ((listed_iff hlids lid).mp hlisted)
    rfl
  · refine ⟨leaseOf 1 "provider", ⟨(listed_iff hlids _).mpr (List.mem_singleton.mpr rfl), rfl⟩,
      rfl, fun lid' hlisted _ => ?_⟩
    exact List.mem_singleton.mp ((listed_iff hlids lid').mp hlisted.1)

end AkashProvider
