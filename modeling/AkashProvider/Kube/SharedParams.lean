import AkashProvider.Kube.Builder

/-!
# Scheduler parameters that services share

Every service with a resource ID gets the pointer of that ID to scheduler parameters, and
`NewManifest` writes the TEE parameters of a service through it.  `Manifest.Codec` and
`Kube.Builder` have these functions on values; here memory is a list of cells, and a pointer is a
position.  `cells_after` says what a call leaves in a cell.
-/

namespace AkashProvider.Shared

open Crd (SchedulerParams EncodeErr)
open Kube (BuildErr)

variable (S : ManifestSdk)

/-! ## The functions with pointers -/

/-- The settings of a reservation, by resource ID, and the memory that they point to. -/
structure LiveSettings where
  cells : List SchedulerParams
  pointers : List (UInt32 × Option Nat)
  allocated : ∀ e ∈ pointers, ∀ p ∈ e.2, p < cells.length

/-- A service as it is stored, with a pointer in place of the parameters. -/
structure ManifestService where
  schedulerParams : Option Nat
  service : Crd.ManifestService

/-- The service as it is read from memory. -/
def ManifestService.load (cells : List SchedulerParams) (ms : ManifestService) :
    Crd.ManifestService :=
  { ms.service with schedulerParams := ms.schedulerParams.bind (cells[·]?) }

def buildClusterSettings (mgroup : Mani.Group) (reservation : List (UInt32 × Option Nat)) :
    Except BuildErr (List (Option Nat)) :=
  mgroup.services.mapM fun svc =>
    match reservation.lookup svc.resources.id with
    | none => .error (.noSchedulerParams svc.resources.id)
    | some params => .ok params

def serviceTEE (svc : Mani.Service) : Option Mani.TEEParams := svc.params.bind (·.tee)

/-- The two assignments to the parameters. -/
def setTEE (sp : SchedulerParams) (tee : Mani.TEEParams) : SchedulerParams :=
  { sp with
    teeType := tee.type
    attestationDisabled := if tee.attestation then sp.attestationDisabled else true }

/-- Nil parameters are replaced by new ones. -/
def writeTEE (cells : List SchedulerParams) (schedulerParams : Option Nat) :
    Option Mani.TEEParams → List SchedulerParams × Option Nat
  | none => (cells, schedulerParams)
  | some tee =>
    match schedulerParams with
    | none => (cells ++ [setTEE .zero tee], some cells.length)
    | some p => (cells.modify p (setTEE · tee), some p)

/-- The other fields do not depend on the parameters. -/
def manifestServiceFromProvider (ams : Mani.Service) (schedulerParams : Option Nat)
    (cells : List SchedulerParams) :
    List SchedulerParams × Except EncodeErr ManifestService :=
  match AkashProvider.manifestServiceFromProvider S ams none with
  | .error err => (cells, .error err)
  | .ok service =>
    let (cells, schedulerParams) := writeTEE cells schedulerParams (serviceTEE ams)
    (cells, .ok ⟨schedulerParams, { service with schedulerParams := none }⟩)

/-- The loop of `manifestGroupToCRD`.  What was written before an error stays. -/
def manifestGroupToCRD : List (Mani.Service × Option Nat) → List SchedulerParams →
    List SchedulerParams × Except EncodeErr (List ManifestService)
  | [], cells => (cells, .ok [])
  | (svc, schedulerParams) :: rest, cells =>
    match manifestServiceFromProvider S svc schedulerParams cells with
    | (cells, .error err) => (cells, .error err)
    | (cells, .ok service) =>
      let (cells, services) := manifestGroupToCRD rest cells
      (cells, services.map (service :: ·))

def newManifest (mgroup : Mani.Group) (settings : List (Option Nat))
    (cells : List SchedulerParams) :
    List SchedulerParams × Except EncodeErr (List ManifestService) :=
  if mgroup.services.length ≠ settings.length then
    (cells, .error (.servicesCount mgroup.services.length settings.length))
  else manifestGroupToCRD S (mgroup.services.zip settings) cells

/-- The manifest of a group, with the settings of the reservation. -/
def makeManifest (reservation : List (UInt32 × Option Nat)) (cells : List SchedulerParams)
    (mgroup : Mani.Group) : List SchedulerParams × Except BuildErr (List ManifestService) :=
  match buildClusterSettings mgroup reservation with
  | .error err => (cells, .error err)
  | .ok settings =>
    let (cells, services) := newManifest S mgroup settings cells
    (cells, services.mapError .encode)

/-- The memory after manifests of one group after another. -/
def makeManifests (reservation : List (UInt32 × Option Nat)) (cells : List SchedulerParams)
    (groups : List Mani.Group) : List SchedulerParams :=
  groups.foldl (fun cells group => (makeManifest S reservation cells group).1) cells

/-! ## What is written -/

def encodes (svc : Mani.Service) : Bool :=
  match resourcesFromAkash svc.resources with
  | .ok _ => true
  | .error _ => false

/-- What services write through a pointer. -/
def teeWrites (entries : List (Mani.Service × Option Nat)) (p : Nat) : List Mani.TEEParams :=
  entries.filterMap fun e => if e.2 = some p then serviceTEE e.1 else none

/-- The services of a group that are reached, with their pointers. -/
def reached (reservation : List (UInt32 × Option Nat)) (group : Mani.Group) :
    List (Mani.Service × Option Nat) :=
  match buildClusterSettings group reservation with
  | .error _ => []
  | .ok settings => (group.services.zip settings).takeWhile fun e => encodes e.1

/-- What the manifests of groups write through a pointer. -/
def allWrites (reservation : List (UInt32 × Option Nat)) (groups : List Mani.Group) (p : Nat) :
    List Mani.TEEParams :=
  groups.flatMap fun group => teeWrites (reached reservation group) p

variable {S}

theorem manifestServiceFromProvider_encodes (svc : Mani.Service) (sp : Option SchedulerParams) :
    (∃ ms, AkashProvider.manifestServiceFromProvider S svc sp = .ok ms) ↔ encodes svc = true := by
  unfold AkashProvider.manifestServiceFromProvider encodes
  cases resourcesFromAkash svc.resources with
  | error err => simp [bind, Except.bind]
  | ok resources => simp [bind, Except.bind]

theorem getElem?_writeTEE {cells : List SchedulerParams} {p : Nat} (hp : p < cells.length)
    (ptr : Option Nat) (tee : Option Mani.TEEParams) :
    (writeTEE cells ptr tee).1[p]? =
      (cells[p]?).map fun sp => (if ptr = some p then tee.toList else []).foldl setTEE sp := by
  cases tee with
  | none => simp [writeTEE]
  | some tee =>
    cases ptr with
    | none => simp [writeTEE, List.getElem?_append_left hp]
    | some q =>
      by_cases hq : q = p
      · subst hq
        simp [writeTEE]
      · simp [writeTEE, hq]

theorem length_writeTEE (cells : List SchedulerParams) (ptr : Option Nat)
    (tee : Option Mani.TEEParams) : cells.length ≤ (writeTEE cells ptr tee).1.length := by
  cases tee with
  | none => exact Nat.le_refl _
  | some tee =>
    cases ptr with
    | none => simp [writeTEE]
    | some q => simp [writeTEE]

theorem teeWrites_cons (svc : Mani.Service) (ptr : Option Nat)
    (rest : List (Mani.Service × Option Nat)) (p : Nat) :
    teeWrites ((svc, ptr) :: rest) p =
      (if ptr = some p then (serviceTEE svc).toList else []) ++ teeWrites rest p := by
  grind [teeWrites, serviceTEE]

/-- What a group leaves in memory.  New cells are not written to by the services after. -/
theorem cells_after : ∀ (entries : List (Mani.Service × Option Nat)) (cells : List SchedulerParams),
    let after := (manifestGroupToCRD S entries cells).1
    cells.length ≤ after.length ∧ ∀ p < cells.length, after[p]? = (cells[p]?).map fun sp =>
      (teeWrites (entries.takeWhile fun e => encodes e.1) p).foldl setTEE sp
  | [], cells => by simp [manifestGroupToCRD, teeWrites]
  | (svc, ptr) :: rest, cells => by
    have hencodes := manifestServiceFromProvider_encodes (S := S) svc none
    unfold manifestGroupToCRD manifestServiceFromProvider
    cases hsvc : AkashProvider.manifestServiceFromProvider S svc none with
    | error err =>
      have hno : encodes svc = false := by simp_all
      simp [hno, teeWrites]
    | ok service =>
      have hyes : encodes svc = true := hencodes.mp ⟨service, hsvc⟩
      obtain ⟨hlen, hcells⟩ := cells_after rest (writeTEE cells ptr (serviceTEE svc)).1
      have hle := length_writeTEE cells ptr (serviceTEE svc)
      refine ⟨hle.trans hlen, ?_⟩
      simp only [List.takeWhile_cons, hyes, if_true, teeWrites_cons, List.foldl_append]
      grind [getElem?_writeTEE]

/-- Pointers of services are to cells that are there. -/
def Allocated (entries : List (Mani.Service × Option Nat)) (cells : List SchedulerParams) : Prop :=
  ∀ e ∈ entries, ∀ p ∈ e.2, p < cells.length

theorem teeWrites_fresh {entries : List (Mani.Service × Option Nat)}
    {cells : List SchedulerParams} (h : Allocated entries cells) :
    teeWrites entries cells.length = [] := by
  rw [teeWrites, List.filterMap_eq_nil_iff]
  intro e he
  rw [if_neg]
  intro hptr
  exact absurd (h e he _ hptr) (Nat.lt_irrefl _)

/-- The parameters of a service in the end, in terms of the memory before. -/
def storedParams (cells : List SchedulerParams) (entries : List (Mani.Service × Option Nat))
    (e : Mani.Service × Option Nat) : Option SchedulerParams :=
  match e.2 with
  | some p => (cells[p]?).map fun sp => (teeWrites entries p).foldl setTEE sp
  | none => (serviceTEE e.1).map (setTEE .zero)

variable {cells after : List SchedulerParams} {services : List ManifestService} {svc : Mani.Service}

theorem manifestGroupToCRD_cons {ptr : Option Nat} {rest : List (Mani.Service × Option Nat)}
    (h : manifestGroupToCRD S ((svc, ptr) :: rest) cells = (after, .ok services)) :
    encodes svc = true ∧ ∃ service services',
      AkashProvider.manifestServiceFromProvider S svc none = .ok service ∧
      services = ⟨(writeTEE cells ptr (serviceTEE svc)).2,
        { service with schedulerParams := none }⟩ :: services' ∧
      manifestGroupToCRD S rest (writeTEE cells ptr (serviceTEE svc)).1 =
        (after, .ok services') := by
  have hencodes := manifestServiceFromProvider_encodes (S := S) svc none
  unfold manifestGroupToCRD manifestServiceFromProvider at h
  cases hsvc : AkashProvider.manifestServiceFromProvider S svc none with
  | error err =>
    rw [hsvc] at h
    cases h
  | ok service =>
    rw [hsvc] at h
    simp only at h
    cases hrest : manifestGroupToCRD S rest (writeTEE cells ptr (serviceTEE svc)).1 with
    | mk cells' result =>
      rw [hrest] at h
      cases result with
      | error err => cases h
      | ok services' => simp_all [Except.map, Prod.mk.injEq, Except.ok.injEq]

theorem all_encode :
    ∀ {entries : List (Mani.Service × Option Nat)},
      manifestGroupToCRD S entries cells = (after, .ok services) →
      entries.takeWhile (fun e => encodes e.1) = entries := by
  intro entries
  induction entries generalizing cells services with
  | nil => exact fun _ => rfl
  | cons e rest ih => grind [manifestGroupToCRD_cons, List.takeWhile_cons]

theorem stored_after {after : List SchedulerParams} :
    ∀ {entries : List (Mani.Service × Option Nat)} {cells : List SchedulerParams}
      {services : List ManifestService},
      manifestGroupToCRD S entries cells = (after, .ok services) → Allocated entries cells →
      List.Forall₂ (fun e ms => (ms.load after).schedulerParams = storedParams cells entries e)
        entries services
  | [], cells, services, h, _ => by
    injection h with _ h
    injection h with h
    subst h
    exact .nil
  | (svc, ptr) :: rest, cells, services, h, halloc => by
    have hafter := (cells_after (S := S) ((svc, ptr) :: rest) cells).2
    rw [all_encode h, h] at hafter
    obtain ⟨-, service, services', -, rfl, hrest⟩ := manifestGroupToCRD_cons h
    obtain ⟨hhead, htail⟩ := List.forall_mem_cons.mp halloc
    have hle := length_writeTEE cells ptr (serviceTEE svc)
    have halloc' : Allocated rest (writeTEE cells ptr (serviceTEE svc)).1 :=
      fun e he p hp => (htail e he p hp).trans_le hle
    have hstored := (List.forall₂_and_left _ _).mpr ⟨htail, stored_after hrest halloc'⟩
    refine .cons ?_ (hstored.imp ?_)
    · simp only [ManifestService.load, storedParams]
      cases ptr with
      | some p =>
        have hptr : (writeTEE cells (some p) (serviceTEE svc)).2 = some p := by
          cases serviceTEE svc <;> rfl
        rw [hptr, Option.bind_some]
        exact hafter p (hhead p rfl)
      | none =>
        cases htee : serviceTEE svc with
        | none => rfl
        | some tee =>
          -- the new cell is the last one, and no service after it has its pointer
          rw [htee] at hrest
          have hfresh := (cells_after (S := S) rest (cells ++ [setTEE .zero tee])).2
            cells.length (by simp)
          rw [all_encode hrest] at hfresh
          simp only [writeTEE] at hrest
          rw [hrest, teeWrites_fresh htail] at hfresh
          simpa [writeTEE] using hfresh
    · rintro e ms ⟨hlt, hload⟩
      rw [hload]
      simp only [storedParams]
      cases hptr : e.2 with
      | none => rfl
      | some p => grind [getElem?_writeTEE, Option.map_map, teeWrites_cons]

/-! ## Calls -/

variable {group : Mani.Group} {reservation : List (UInt32 × Option Nat)}

theorem buildClusterSettings_forall {settings : List (Option Nat)}
    (h : buildClusterSettings group reservation = .ok settings) :
    List.Forall₂ (fun svc ptr => reservation.lookup svc.resources.id = some ptr)
      group.services settings := by
  refine (Except.mapM_eq_ok_iff.mp h).imp ?_
  grind

theorem makeManifest_cells (reservation : List (UInt32 × Option Nat))
    (cells : List SchedulerParams) (group : Mani.Group) :
    let after := (makeManifest S reservation cells group).1
    cells.length ≤ after.length ∧ ∀ p < cells.length, after[p]? = (cells[p]?).map fun sp =>
      (teeWrites (reached reservation group) p).foldl setTEE sp := by
  unfold makeManifest reached
  cases hsettings : buildClusterSettings group reservation with
  | error err => simp [teeWrites]
  | ok settings =>
    have hlength := (buildClusterSettings_forall hsettings).length_eq
    grind [newManifest, cells_after]

theorem makeManifests_cells (reservation : List (UInt32 × Option Nat)) :
    ∀ (groups : List Mani.Group) (cells : List SchedulerParams),
      let after := makeManifests S reservation cells groups
      cells.length ≤ after.length ∧ ∀ p < cells.length, after[p]? = (cells[p]?).map fun sp =>
        (allWrites reservation groups p).foldl setTEE sp
  | [], cells => by simp [makeManifests, allWrites]
  | group :: groups, cells => by
    obtain ⟨hlen, hcells⟩ := makeManifest_cells (S := S) reservation cells group
    obtain ⟨hlen', hcells'⟩ := makeManifests_cells reservation groups
      (makeManifest S reservation cells group).1
    refine ⟨hlen.trans hlen', ?_⟩
    intro p hp
    have hrest := hcells' p (hp.trans_le hlen)
    rw [hcells p hp, Option.map_map] at hrest
    simp only [allWrites, List.flatMap_cons, List.foldl_append]
    exact hrest

theorem makeManifest_stored (halloc : ∀ e ∈ reservation, ∀ p ∈ e.2, p < cells.length)
    (h : makeManifest S reservation cells group = (after, .ok services)) :
    List.Forall₂ (fun svc ms => ∃ ptr, reservation.lookup svc.resources.id = some ptr ∧
        (svc, ptr) ∈ reached reservation group ∧
        (ms.load after).schedulerParams = storedParams cells (reached reservation group) (svc, ptr))
      group.services services := by
  unfold makeManifest at h
  unfold reached
  cases hsettings : buildClusterSettings group reservation with
  | error err =>
    rw [hsettings] at h
    cases h
  | ok settings =>
    have hall := buildClusterSettings_forall hsettings
    rw [hsettings] at h
    simp only [newManifest, if_neg (not_not.mpr hall.length_eq)] at h
    cases hgroup : manifestGroupToCRD S (group.services.zip settings) cells with
    | mk cells' result =>
      rw [hgroup] at h
      obtain ⟨rfl, hresult⟩ := Prod.mk.inj h
      rw [Except.mapError_eq_ok_iff] at hresult
      subst hresult
      simp only
      rw [all_encode hgroup]
      have hlookup : ∀ e ∈ group.services.zip settings,
          reservation.lookup e.1.resources.id = some e.2 := by
        intro e he
        exact List.forall₂_zip hall he
      have hptrs : Allocated (group.services.zip settings) cells := by
        intro e he p hp
        obtain ⟨_, _, hmem, -⟩ := List.lookup_eq_some_iff.mp (hlookup e he)
        exact halloc (e.1.resources.id, e.2) (by simp [hmem]) p hp
      have hservices : group.services = (group.services.zip settings).map Prod.fst :=
        (List.map_fst_zip hall.length_eq.le).symm
      have hstored := (List.forall₂_and_left _ _).mpr
        ⟨fun e he => And.intro he (hlookup e he), stored_after hgroup hptrs⟩
      rw [hservices, List.forall₂_map_left_iff, ← hservices]
      exact hstored.imp fun e ms hms => ⟨e.2, hms.1.2, hms.1.1, hms.2⟩

/-! ## TEE parameters -/

theorem attestationDisabled_foldl (ws : List Mani.TEEParams) (sp : SchedulerParams) :
    (ws.foldl setTEE sp).attestationDisabled =
      (sp.attestationDisabled || ws.any (!·.attestation)) := by
  induction ws generalizing sp with
  | nil => simp
  | cons w ws ih => grind [setTEE]

theorem teeType_foldl (ws : List Mani.TEEParams) (sp : SchedulerParams) :
    (ws.foldl setTEE sp).teeType = (ws.getLast?.map (·.type)).getD sp.teeType := by
  induction ws generalizing sp with
  | nil => rfl
  | cons w ws ih =>
    rw [List.foldl_cons, ih, List.getLast?_cons]
    cases ws.getLast? <;> rfl

def attestationDisabled (sp : Option SchedulerParams) : Bool := sp.any (·.attestationDisabled)

def teeType (sp : Option SchedulerParams) : String := (sp.map (·.teeType)).getD ""

/-- The parameters that the settings have for a service. -/
def LiveSettings.paramsOf (live : LiveSettings) (svc : Mani.Service) : Option SchedulerParams :=
  (live.pointers.lookup svc.resources.id).join.bind (live.cells[·]?)

/-- The stored parameters of a service have its own TEE parameters, and the type that the
settings had if it has none. -/
def HasOwnTEE (svc : Mani.Service) (before stored : Option SchedulerParams) : Prop :=
  (attestationDisabled stored = true ↔ ∃ tee ∈ serviceTEE svc, tee.attestation = false) ∧
    teeType stored = ((serviceTEE svc).map (·.type)).getD (teeType before)

/-- What was written through the pointer of a service leaves its own TEE parameters. -/
def Undisturbed (live : LiveSettings) (groups : List Mani.Group) (svc : Mani.Service) : Prop :=
  ∀ p ∈ (live.pointers.lookup svc.resources.id).join, ∀ sp ∈ live.cells[p]?,
    ((∀ tee ∈ serviceTEE svc, tee.attestation = true) → sp.attestationDisabled = false ∧
      ∀ tee ∈ allWrites live.pointers groups p, tee.attestation = true) ∧
    ((allWrites live.pointers groups p).getLast?.map (·.type)).getD sp.teeType =
      ((serviceTEE svc).map (·.type)).getD sp.teeType

theorem hasOwnTEE_new (svc : Mani.Service) :
    HasOwnTEE svc none ((serviceTEE svc).map (setTEE .zero)) := by
  cases htee : serviceTEE svc with
  | none => simp [HasOwnTEE, htee, attestationDisabled, teeType]
  | some tee => simp [HasOwnTEE, htee, attestationDisabled, teeType, setTEE, SchedulerParams.zero]

theorem hasOwnTEE_foldl_iff {ws : List Mani.TEEParams} (hown : ∀ tee ∈ serviceTEE svc, tee ∈ ws)
    (sp : SchedulerParams) :
    HasOwnTEE svc (some sp) (some (ws.foldl setTEE sp)) ↔
      ((∀ tee ∈ serviceTEE svc, tee.attestation = true) → sp.attestationDisabled = false ∧
        ∀ tee ∈ ws, tee.attestation = true) ∧
      (ws.getLast?.map (·.type)).getD sp.teeType =
        ((serviceTEE svc).map (·.type)).getD sp.teeType := by
  have hdisabled : attestationDisabled (some (ws.foldl setTEE sp)) = true ↔
      sp.attestationDisabled = true ∨ ∃ tee ∈ ws, tee.attestation = false := by
    rw [attestationDisabled, Option.any_some, attestationDisabled_foldl]
    simp
  have hkept : (sp.attestationDisabled = false ∧ ∀ tee ∈ ws, tee.attestation = true) ↔
      ¬ (sp.attestationDisabled = true ∨ ∃ tee ∈ ws, tee.attestation = false) := by
    simp
  have hwants : (∀ tee ∈ serviceTEE svc, tee.attestation = true) ↔
      ¬ ∃ tee ∈ serviceTEE svc, tee.attestation = false := by
    simp
  grind [HasOwnTEE, teeType, teeType_foldl]

/-- After any manifests with the settings, a service of the last has its own TEE parameters exactly
if nothing written through its pointer disturbs them. -/
theorem tee_settings_iff (live : LiveSettings) (earlier : List Mani.Group) {group : Mani.Group}
    {after : List SchedulerParams} {services : List ManifestService}
    (h : makeManifest S live.pointers (makeManifests S live.pointers live.cells earlier) group =
      (after, .ok services)) :
    List.Forall₂ (fun svc ms =>
        (HasOwnTEE svc (live.paramsOf svc) (ms.load after).schedulerParams ↔
          Undisturbed live (earlier ++ [group]) svc))
      group.services services := by
  obtain ⟨hlen, hcells⟩ := makeManifests_cells (S := S) live.pointers earlier live.cells
  have halloc : ∀ e ∈ live.pointers, ∀ p ∈ e.2,
      p < (makeManifests S live.pointers live.cells earlier).length :=
    fun e he p hp => (live.allocated e he p hp).trans_le hlen
  refine (makeManifest_stored halloc h).imp ?_
  rintro svc ms ⟨ptr, hlookup, hreached, hstored⟩
  rw [hstored]
  cases ptr with
  | none =>
    refine iff_of_true ?_ ?_
    · rw [LiveSettings.paramsOf, hlookup]
      exact hasOwnTEE_new svc
    · intro p hp
      rw [hlookup] at hp
      cases hp
  | some p =>
    obtain ⟨_, _, hmem, -⟩ := List.lookup_eq_some_iff.mp hlookup
    have hp : p < live.cells.length :=
      live.allocated (svc.resources.id, some p) (by simp [hmem]) p rfl
    have hsp : live.cells[p]? = some live.cells[p] := List.getElem?_eq_getElem hp
    have hown : ∀ tee ∈ serviceTEE svc, tee ∈ allWrites live.pointers (earlier ++ [group]) p := by
      intro tee htee
      refine List.mem_flatMap.mpr ⟨group, by simp, List.mem_filterMap.mpr ⟨_, hreached, ?_⟩⟩
      rw [if_pos rfl]
      exact htee
    have hvalue : storedParams (makeManifests S live.pointers live.cells earlier)
        (reached live.pointers group) (svc, some p) =
        some ((allWrites live.pointers (earlier ++ [group]) p).foldl setTEE live.cells[p]) := by
      simp only [storedParams, hcells p hp, hsp, Option.map_some, allWrites,
        List.flatMap_append, List.foldl_append, List.flatMap_singleton]
    rw [hvalue, LiveSettings.paramsOf, hlookup, Option.join_some, Option.bind_some, hsp,
      hasOwnTEE_foldl_iff hown]
    constructor
    · intro hundisturbed q hq sp hsp'
      grind
    · intro hundisturbed
      exact hundisturbed p (by rw [hlookup]; rfl) _ hsp

/-- A service with a resource ID and TEE parameters. -/
def teeService (name : String) (id : UInt32) (tee : Option Mani.TEEParams) : Mani.Service where
  name := name
  image := "nginx"
  command := []
  args := []
  env := []
  resources := ⟨id, some ⟨100, []⟩, some ⟨1024, []⟩, [], some ⟨0, []⟩, []⟩
  count := 1
  expose := []
  params := some ⟨[], none, tee⟩
  credentials := none
  interconnectGroup := ""

/-- Parameters for the IDs 1 and 2, as a reservation leaves them, and none for the ID 3. -/
def plainSettings : LiveSettings where
  cells := [.zero, .zero]
  pointers := [(1, some 0), (2, some 1), (3, none)]
  allocated := by decide

/-- Two manifests of a group with an ID for each service. -/
theorem tee_settings_own_ids :
    let group : Mani.Group := ⟨"group", [teeService "db" 1 (some ⟨"cpu", false⟩),
      teeService "web" 2 none, teeService "job" 3 (some ⟨"cpu", true⟩)]⟩
    let cells := makeManifests .reference plainSettings.pointers plainSettings.cells [group]
    ∃ after services,
      makeManifest .reference plainSettings.pointers cells group = (after, .ok services) ∧
      List.Forall₂ (fun svc ms =>
        HasOwnTEE svc (plainSettings.paramsOf svc) (ms.load after).schedulerParams)
        group.services services := by
  intro group cells
  have hok : (makeManifest .reference plainSettings.pointers cells group).2.toOption.isSome := by
    decide +kernel
  obtain ⟨services, hservices⟩ := Option.isSome_iff_exists.mp hok
  have hmake : makeManifest .reference plainSettings.pointers cells group = (_, .ok services) :=
    Prod.ext rfl (Except.eq_ok_of_toOption_eq_some hservices)
  have hundisturbed : ∀ svc ∈ group.services,
      Undisturbed plainSettings ([group] ++ [group]) svc := by
    unfold Undisturbed
    decide +kernel
  have hboth := (List.forall₂_and_left _ _).mpr
    ⟨hundisturbed, tee_settings_iff plainSettings [group] hmake⟩
  exact ⟨_, services, hmake, hboth.imp fun svc ms h => h.2.mpr h.1⟩

/-- Of two services with one ID, the one without TEE parameters gets those of the other.  And a
manifest with attestation follows one without. -/
theorem tee_settings_leak :
    let shared : Mani.Group := ⟨"group", [teeService "db" 1 (some ⟨"cpu", false⟩),
      teeService "web" 1 none]⟩
    let off : Mani.Group := ⟨"group", [teeService "db" 1 (some ⟨"cpu", false⟩)]⟩
    let on : Mani.Group := ⟨"group", [teeService "db" 1 (some ⟨"cpu", true⟩)]⟩
    let stored := fun earlier group =>
      let made := makeManifest .reference plainSettings.pointers
        (makeManifests .reference plainSettings.pointers plainSettings.cells earlier) group
      made.2.toOption.map fun services => services.map fun ms => (ms.load made.1).schedulerParams
    let disabled : SchedulerParams := { SchedulerParams.zero with
      teeType := "cpu", attestationDisabled := true }
    stored [] shared = some [some disabled, some disabled] ∧
      ¬ HasOwnTEE (teeService "web" 1 none) (some .zero) (some disabled) ∧
      stored [off] on = some [some disabled] ∧
      ¬ HasOwnTEE (teeService "db" 1 (some ⟨"cpu", true⟩)) (some .zero) (some disabled) := by
  unfold HasOwnTEE
  decide +kernel

end AkashProvider.Shared
