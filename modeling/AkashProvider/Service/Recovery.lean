import AkashProvider.Inventory.Placement
import AkashProvider.Manifest.RoundTrip
import AkashProvider.Service.Machine

/-!
# Confidential leases after a restart

At start-up a reservation is made from the stored manifest, and its TEE type decides its runtime
class.  `Manifest.Deployment` hands the parameters over by resource ID, into which
`teeTypeFromClusterParams` does not look.  So no recovered reservation has a TEE type, and the
first update takes the runtime class away.
-/

namespace AkashProvider

open Crd (SchedulerParams)

variable {S : Sdk} {M : ManifestSdk} {cfg : ServiceConfig}

/-! ## Runtime classes without a TEE type -/

variable {att : AttemptConfig} {cluster : InventoryV1.Cluster} {node : Nat} {sp : SchedulerParams}

theorem DevicesPassed.runtimeClass_of_not_isCC {res : Rtypes.Resources} {nd : InventoryV1.Node}
    {gpu : Rtypes.GPU} (p : DevicesPassed S cluster node res att nd sp gpu)
    (hcc : att.teeType.isCC = false) :
    sp.runtimeClass = "" ∨ sp.runtimeClass = runtimeClassNvidia := by
  have hempty : p.sp.runtimeClass = "" := tryAdjustInterconnect_runtimeClass p.ic_ok
  have hgpu := p.gpu_ok
  by_cases hunits : p.gpuReq.units = 0
  · grind [tryAdjustGPU_zero]
  · obtain ⟨_, _, _, _, -, -, -, -, -, hsp⟩ := tryAdjustGPU_eq_some hunits hgpu
    simp only [hsp, stampGPU, hcc, Bool.false_eq_true, if_false]
    split
    next => exact .inr rfl
    next => exact .inl hempty

theorem tryAdjust_not_confidential {res res' : Rtypes.Resources} {claims : GroupClaims}
    {commit : Commit} (h : tryAdjust S cluster node res att claims = (res', .ok commit))
    (hcc : att.teeType.isCC = false) (hsp : commit.sparams = some sp) :
    sp.runtimeClass.isWithCC = false := by
  obtain ⟨p⟩ := tryAdjust_eq_ok h
  have hsame : p.sp' = p.sp := by
    obtain ⟨-, -, hsp'⟩ | ⟨hcc', -⟩ := reserveSidecar_eq_ok p.rest.sidecar_ok
    · exact hsp'
    · cases hcc.symm.trans hcc'
  have hclass := p.devices.runtimeClass_of_not_isCC hcc
  have heq : sp = p.sp' := by
    have hparams := p.sparams_eq
    grind
  rw [heq, hsame]
  obtain hclass | hclass := hclass
  · rw [hclass]
    decide
  · rw [hclass]
    decide

/-! ## Recovered reservations -/

/-- No entry of the parameters has a confidential runtime class. -/
def NoConfidential : ClusterParams → Prop
  | .reservationSettings s => ∀ id sp, (id, some sp) ∈ s → sp.runtimeClass.isWithCC = false
  | .clusterSettings _ => True
  | .nil => True

/-- The runtime class that the parameters have for a resource ID. -/
def runtimeClassOf (cp : ClusterParams) (id : UInt32) : Option RuntimeClass :=
  match cp with
  | .reservationSettings s => (s.lookup id).join.map (·.runtimeClass)
  | .clusterSettings _ => none
  | .nil => none

theorem Reservation.adjust_noConfidential {inv inv' : Inventory} {r r' : Reservation}
    (h : r.adjust cfg inv = (inv', .ok r')) (hnone : r.teeType = .none) :
    NoConfidential r'.clusterParams := by
  obtain ⟨g, hadj, hr'⟩ := Reservation.adjust_eq_ok h
  obtain ⟨st, hprog, -, -, hg⟩ := AkashProvider.adjust_eq_ok hadj
  subst hr'
  subst hg
  intro id sp hmem
  obtain ⟨p, hp, he⟩ := hprog.params _ hmem
  obtain ⟨a⟩ := placed_attempt hprog.run hp
  refine tryAdjust_not_confidential a.ok ?_ ?_
  · show r.teeType.isCC = false
    rw [hnone]
    rfl
  · rw [← a.sparams]
    exact (Prod.ext_iff.mp he).2.symm

/-- Only inventories arrive. -/
def OnlyUpdates (_ : ServiceState) : ServiceEvent → Prop
  | .inventoryUpdate _ => True
  | .applyInventory => True
  | _ => False

/-- A reservation without a TEE type, whose parameters are those that were stored until they are
replaced by ones without a confidential class. -/
def Demoted (stored : ClusterParams) (s : ServiceState) : Prop :=
  ∀ r ∈ s.reservations, r.teeType = .none ∧
    (r.clusterParams = stored ∨ NoConfidential r.clusterParams)

theorem serviceStep_demoted {stored : ClusterParams} {s s' : ServiceState} {e : ServiceEvent}
    (hok : OnlyUpdates s e) (hstep : serviceStep cfg s e = some s') (h : Demoted stored s) :
    Demoted stored s' := by
  cases serviceStep_move hstep with
  | ignore => exact h
  | store inv => exact h
  | apply inv =>
    intro r' hr'
    simp only [applyInventory, updateIPs_reservations] at hr'
    obtain ⟨r, hr, hcase⟩ := (readjust_adjusts cfg s.reservations inv).exists_of_mem hr'
    obtain rfl | ⟨-, inv₁, inv₂, hadj⟩ := hcase
    · -- allocated, or refused
      exact h r' hr
    · have hnone := (h r hr).1
      exact ⟨(Reservation.adjust_kept hadj).teeType_eq.trans hnone,
        .inr (Reservation.adjust_noConfidential hadj hnone)⟩
  | _ => cases hok

theorem newInventoryService_demoted (cfg : ServiceConfig) (d : Crd.Deployment) :
    Demoted (d.toIDeployment M).clusterParams
      (newInventoryService cfg [d.toIDeployment M]) := by
  intro r hr
  rw [List.mem_singleton.mp hr]
  exact ⟨rfl, .inl rfl⟩

/-! ## The stored TEE type -/

theorem stored_teeType {ns : String} {lid : LeaseID} {g : Mani.Group}
    {settings : Crd.ClusterSettings} {m : Crd.Manifest}
    (hnew : newManifest M ns lid g settings = .ok m) {svc : Mani.Service}
    (hsvc : svc ∈ g.services) {tee : Mani.TEEParams} (htee : svc.params.bind (·.tee) = some tee) :
    ∃ ms ∈ m.spec.group.services, ms.resources.id = svc.resources.id ∧
      ∃ sp, ms.schedulerParams = some sp ∧ sp.teeType = tee.type := by
  obtain ⟨ms, hms, sp, hencode⟩ : ∃ ms ∈ m.spec.group.services, ∃ sp,
      manifestServiceFromProvider M svc sp = .ok ms :=
    (newManifest_eq_ok hnew).2.2.exists_of_mem_left hsvc
  obtain ⟨ru, hru, he⟩ := Except.exists_of_bind_eq_ok hencode
  injection he with he
  subst he
  refine ⟨_, hms, ?_, ?_⟩
  · obtain ⟨cpu, -, hru⟩ := Except.exists_of_bind_eq_ok hru
    obtain ⟨gpu, -, hru⟩ := Except.exists_of_bind_eq_ok hru
    injection hru with hru
    rw [← hru]
  · simp only [withTEEParams, htee]
    exact ⟨_, rfl, rfl⟩

/-- The reservation of a stored manifest has the TEE type `t`, and through any number of
inventory updates it keeps the runtime class `rc` for a resource ID. -/
def RecoversConfidential (M : ManifestSdk) (cfg : ServiceConfig) (m : Crd.Manifest) (id : UInt32)
    (t : TEEType) (rc : RuntimeClass) : Prop :=
  ∃ d, m.deployment M = .ok d ∧ (recoveredReservation (d.toIDeployment M)).teeType = t ∧
    ∀ s, Runs (serviceStep cfg) OnlyUpdates (newInventoryService cfg [d.toIDeployment M]) s →
      ∀ r ∈ s.reservations, runtimeClassOf r.clusterParams id = some rc

/-- No reservation that is made from a stored manifest has the TEE type of its service: its
parameters are the stored ones or have no confidential class. -/
theorem confidential_never_recovered {ns : String} {lid : LeaseID} {g : Mani.Group}
    {settings : Crd.ClusterSettings} {m : Crd.Manifest}
    (hnew : newManifest M ns lid g settings = .ok m) {svc : Mani.Service}
    (hsvc : svc ∈ g.services) {tee : Mani.TEEParams} (htee : svc.params.bind (·.tee) = some tee)
    {t : TEEType} (hparse : parseTEEType tee.type = some t) (ht : t.isCC = true)
    (cfg : ServiceConfig) (rc : RuntimeClass) :
    (∃ ms ∈ m.spec.group.services, ms.resources.id = svc.resources.id ∧
      ∃ sp, ms.schedulerParams = some sp ∧ parseTEEType sp.teeType = some t) ∧
    (∀ d, m.deployment M = .ok d → ∀ s,
      Runs (serviceStep cfg) OnlyUpdates (newInventoryService cfg [d.toIDeployment M]) s →
        Demoted (d.toIDeployment M).clusterParams s) ∧
    ¬ RecoversConfidential M cfg m svc.resources.id t rc := by
  refine ⟨?_, ?_, ?_⟩
  · grind [stored_teeType]
  · intro d _ s hrun
    exact hrun.invariant (fun _ _ _ hok hstep h => serviceStep_demoted hok hstep h)
      (newInventoryService_demoted cfg d)
  · rintro ⟨d, -, hteeType, -⟩
    subst hteeType
    cases ht

def tdxConfig : ServiceConfig := { plainConfig false with teePlatform := .tdx }

/-- A confidential service, and the parameters it was deployed with. -/
def confidentialGroup : Mani.Group :=
  ⟨"group", [{ webService "" with params := some ⟨[], none, some ⟨"cpu", true⟩⟩ }]⟩

def confidentialSettings : Crd.ClusterSettings :=
  ⟨[some { SchedulerParams.zero with runtimeClass := runtimeClassKataQemuTDX }]⟩

def confidentialInventory : Inventory :=
  newInventory ⟨[{ freeNode "node" 1000 4096 0 [] with
    resources.ephemeralStorage := freePair 9000000 }], []⟩

theorem confidential_never_recovered_tdx :
    ∃ m, newManifest .reference "lease" webLease confidentialGroup confidentialSettings = .ok m ∧
      ¬ RecoversConfidential .reference tdxConfig m 1 .cpu runtimeClassKataQemuTDX := by
  have hnew : newManifest .reference "lease" webLease confidentialGroup confidentialSettings =
    .ok _ := rfl
  exact ⟨_, hnew, (confidential_never_recovered hnew List.mem_cons_self rfl rfl rfl tdxConfig
    runtimeClassKataQemuTDX).2.2⟩

/-- The deployment that is read back. -/
def confidentialDeployment : Crd.Deployment where
  lid := webLease
  group := ⟨"group", confidentialGroup.services.map (·.stored)⟩
  cparams := [(1, some ⟨runtimeClassKataQemuTDX, none, false, "cpu"⟩)]
  resourceVersion := ""

/-- The provider at start-up, and with its first inventory in use. -/
def restarted : ServiceState :=
  newInventoryService tdxConfig [confidentialDeployment.toIDeployment .reference]

def servingRestarted : ServiceState :=
  applyInventory tdxConfig { restarted with invupch := some confidentialInventory }
    confidentialInventory

/-- The service was deployed under the TDX class.  It is recovered without a TEE type, and the
first inventory takes the class away. -/
theorem confidential_lost :
    ∃ m r, newManifest .reference "lease" webLease confidentialGroup confidentialSettings = .ok m ∧
      m.deployment .reference = .ok confidentialDeployment ∧
      runtimeClassOf (.reservationSettings confidentialDeployment.cparams) 1 =
        some runtimeClassKataQemuTDX ∧
      Runs (serviceStep tdxConfig) OnlyUpdates restarted servingRestarted ∧
      servingRestarted.reservations = [r] ∧ r.teeType = .none ∧
      runtimeClassOf r.clusterParams 1 = none ∧
      ¬ RecoversConfidential .reference tdxConfig m 1 .cpu runtimeClassKataQemuTDX := by
  have hnew : newManifest .reference "lease" webLease confidentialGroup confidentialSettings =
    .ok _ := rfl
  have hstart : Runs (serviceStep tdxConfig) OnlyUpdates restarted _ := .refl _
  have hstored := hstart.next (.inventoryUpdate (some confidentialInventory)) trivial rfl
  have hrun : Runs _ _ _ servingRestarted := hstored.next .applyInventory trivial rfl
  refine ⟨_, _, hnew, rfl, rfl, hrun, rfl, rfl, rfl, ?_⟩
  rintro ⟨d, -, hteeType, -⟩
  cases hteeType

end AkashProvider
