import AkashProvider.Lib.Except
import AkashProvider.Lib.Registry
import AkashProvider.Types.Resources

/-!
# The hostname service

The service keeps a map from hostnames to holders and answers four requests: reserve, can-reserve,
prepare for a transfer, release.  A holder is what `hostnameIDFromLeaseID` leaves of a lease:
owner, deployment and group.  Reserving lowers the letters of names first; preparing for a
transfer does not (`Hostname.Transfer`).  A call that does not reach the service is not among the
requests.
-/

namespace AkashProvider

/-! ## Holders -/

/-- What the service takes from elsewhere. -/
structure HostnameSdk where
  /-- `sdk.AccAddressFromBech32`; the address as its bytes. -/
  accAddressFromBech32 : String → Option String
  /-- `strings.ToLower`, over all letters. -/
  toLower : String → String
  quote : String → String
  /-- The text of the error for a bad address. -/
  addressText : String → String

/-- One implementation, to evaluate the model with. -/
def HostnameSdk.reference : HostnameSdk where
  accAddressFromBech32 s := if s = "" then none else some s
  toLower := String.toLower
  quote s := "\"" ++ s ++ "\""
  addressText _ := "empty address string is not allowed"

structure HostnameID where
  owner : String
  dseq : UInt64
  gseq : UInt32
deriving DecidableEq

inductive HostnameErr where
  | address (owner : String)
  | inUse (hostname : String)
  | blocked (hostname : String)
  | domainBlocked (hostname : String)
deriving DecidableEq

def errHostnameNotAllowed : String := "hostname not allowed"

def HostnameErr.message (S : HostnameSdk) : HostnameErr → String
  | .address owner => S.addressText owner
  | .inUse hostname => errHostnameNotAllowed ++ ": host " ++ S.quote hostname ++ " in use"
  | .blocked hostname =>
    errHostnameNotAllowed ++ ": " ++ S.quote hostname ++ " is blocked by this provider"
  | .domainBlocked hostname =>
    errHostnameNotAllowed ++ ": domain " ++ S.quote hostname ++ " is blocked by this provider"

def hostnameIDFromLeaseID (S : HostnameSdk) (lID : LeaseID) : Except HostnameErr HostnameID :=
  match S.accAddressFromBech32 lID.owner with
  | none => .error (.address lID.owner)
  | some ownerAddr => .ok ⟨ownerAddr, lID.dseq, lID.gseq⟩

/-! ## The handlers -/

abbrev HostnameMap := Registry String HostnameID

/-- The loop that the handlers begin with.  It stops at a name that another owner holds, and
collects the held names whose holder satisfies `p`. -/
def heldNames (store : HostnameMap) (ownerAddr : String) (p : HostnameID → Bool) :
    List String → Except HostnameErr (List String)
  | [] => .ok []
  | hostname :: hostnames =>
    match store hostname with
    | none => heldNames store ownerAddr p hostnames
    | some existingID =>
      if existingID.owner ≠ ownerAddr then .error (.inUse hostname)
      else (heldNames store ownerAddr p hostnames).map fun names =>
        if p existingID then hostname :: names else names

def prepareHostnamesImpl (store : HostnameMap) (hostnames : List String) (hID : HostnameID) :
    Except HostnameErr HostnameMap := do
  let toChange ← heldNames store hID.owner (fun _ => true) hostnames
  .ok (store.assign hID toChange)

/-- The map afterwards and the withheld names. -/
def reserveHostnamesImpl (store : HostnameMap) (hostnames : List String) (hID : HostnameID) :
    Except HostnameErr (HostnameMap × List String) := do
  let withheldHostnames ← heldNames store hID.owner (· ≠ hID) hostnames
  -- what is no longer requested is looked up before the names are marked as in use
  let removeHostnames := fun hostname => hostname ∉ hostnames ∧ store hostname = some hID
  let marked := store.assign hID (hostnames.filter (· ∉ withheldHostnames))
  .ok (marked.remove removeHostnames, withheldHostnames)

def canReserveHostnamesImpl (store : HostnameMap) (hostnames : List String) (ownerAddr : String) :
    Except HostnameErr Unit := do
  let _ ← heldNames store ownerAddr (fun _ => false) hostnames
  .ok ()

def releaseHostnamesImpl (store : HostnameMap) (hID : HostnameID) : HostnameMap :=
  store.remove fun hostname => store hostname = some hID

/-! ## What the handlers do -/

variable {hID : HostnameID}

theorem hostnameIDFromLeaseID_eq_ok_iff {S : HostnameSdk} {l : LeaseID} :
    hostnameIDFromLeaseID S l = .ok hID ↔
      S.accAddressFromBech32 l.owner = some hID.owner ∧ hID.dseq = l.dseq ∧ hID.gseq = l.gseq := by
  simp only [hostnameIDFromLeaseID]
  cases S.accAddressFromBech32 l.owner with
  | none => simp
  | some ownerAddr =>
    obtain ⟨owner, dseq, gseq⟩ := hID
    simp [eq_comm]

/-- The names of the list that are held have one owner. -/
def HeldByOwner (store : HostnameMap) (ownerAddr : String) (hostnames : List String) : Prop :=
  ∀ h ∈ hostnames, ∀ e, store h = some e → e.owner = ownerAddr

variable {hostnames : List String}

theorem heldByOwner_cons {store : HostnameMap} {ownerAddr h : String} :
    HeldByOwner store ownerAddr (h :: hostnames) ↔
      (∀ e, store h = some e → e.owner = ownerAddr) ∧ HeldByOwner store ownerAddr hostnames :=
  List.forall_mem_cons

theorem heldNames_eq_ok_iff {store : HostnameMap} {ownerAddr : String} {p : HostnameID → Bool} :
    ∀ {names : List String},
    heldNames store ownerAddr p hostnames = .ok names ↔
      HeldByOwner store ownerAddr hostnames ∧
        names = hostnames.filter fun h => (store h).any p := by
  induction hostnames with
  | nil => simp [heldNames, HeldByOwner, eq_comm]
  | cons h hostnames ih =>
    rw [heldByOwner_cons]
    cases hstore : store h with
    | none =>
      simp only [heldNames, hstore, ih]
      simp [hstore]
    | some e =>
      by_cases howner : e.owner = ownerAddr
      · simp only [heldNames, hstore, howner, ne_eq, not_true_eq_false, if_false,
          Option.some_inj, forall_eq', true_and]
        constructor
        · intro hmap
          obtain ⟨rest, hrest, rfl⟩ := Except.exists_of_map_eq_ok hmap
          grind
        · rintro ⟨hheld, rfl⟩
          rw [ih.mpr ⟨hheld, rfl⟩]
          simp [Except.map, List.filter_cons, hstore]
      · simp [heldNames, hstore, howner]

variable {store store' : HostnameMap}

theorem prepareHostnamesImpl_eq_ok_iff :
    prepareHostnamesImpl store hostnames hID = .ok store' ↔
      HeldByOwner store hID.owner hostnames ∧
        store' = store.assign hID (hostnames.filter fun h => (store h).isSome) := by
  constructor
  · intro h
    obtain ⟨toChange, htoChange, h⟩ := Except.exists_of_bind_eq_ok h
    grind [heldNames_eq_ok_iff, Option.any_true]
  · rintro ⟨hheld, rfl⟩
    have hnames := heldNames_eq_ok_iff.mpr
      ⟨hheld, Eq.refl (hostnames.filter fun h => (store h).any fun _ => true)⟩
    simp only [prepareHostnamesImpl, hnames]
    rfl

theorem prepareHostnamesImpl_apply (hok : prepareHostnamesImpl store hostnames hID = .ok store')
    (h : String) :
    store' h = if h ∈ hostnames ∧ (store h).isSome then some hID else store h := by
  obtain ⟨-, rfl⟩ := prepareHostnamesImpl_eq_ok_iff.mp hok
  simp only [Registry.assign_apply, List.mem_filter]

/-- The names of the list that another group of the owner holds. -/
def withheldOf (store : HostnameMap) (hID : HostnameID) (hostnames : List String) : List String :=
  hostnames.filter fun h => (store h).any (· ≠ hID)

variable {h : String}

theorem mem_withheldOf {store : HostnameMap} :
    h ∈ withheldOf store hID hostnames ↔ h ∈ hostnames ∧ ∃ e, store h = some e ∧ e ≠ hID := by
  rw [withheldOf, List.mem_filter]
  cases store h <;> simp

theorem reserveHostnamesImpl_eq_ok_iff {hostnames withheld : List String} :
    reserveHostnamesImpl store hostnames hID = .ok (store', withheld) ↔
      HeldByOwner store hID.owner hostnames ∧ withheld = withheldOf store hID hostnames ∧
        store' = (store.assign hID (hostnames.filter (· ∉ withheld))).remove
          fun h => h ∉ hostnames ∧ store h = some hID := by
  constructor
  · intro h
    obtain ⟨names, hnames, h⟩ := Except.exists_of_bind_eq_ok h
    obtain ⟨hheld, rfl⟩ := heldNames_eq_ok_iff.mp hnames
    injection h with h
    injection h with h₁ h₂
    exact ⟨hheld, h₂.symm, h₂ ▸ h₁.symm⟩
  · rintro ⟨hheld, rfl, rfl⟩
    have hnames := heldNames_eq_ok_iff.mpr
      ⟨hheld, Eq.refl (hostnames.filter fun h => (store h).any (· ≠ hID))⟩
    simp only [reserveHostnamesImpl, hnames]
    rfl

/-- A requested name is held by the group unless it was withheld; the others that the group held
are free. -/
theorem reserveHostnamesImpl_apply {hostnames withheld : List String}
    (hok : reserveHostnamesImpl store hostnames hID = .ok (store', withheld)) (h : String) :
    store' h =
      if h ∈ hostnames then if h ∈ withheld then store h else some hID
      else if store h = some hID then none else store h := by
  obtain ⟨-, -, rfl⟩ := reserveHostnamesImpl_eq_ok_iff.mp hok
  by_cases hmem : h ∈ hostnames
  · simp_all [Registry.remove_apply, Registry.assign_apply]
  · simp [Registry.remove_apply, Registry.assign_apply, hmem]

theorem releaseHostnamesImpl_apply (store : HostnameMap) (hID : HostnameID) (h : String) :
    releaseHostnamesImpl store hID h = if store h = some hID then none else store h := by
  simp [releaseHostnamesImpl, Registry.remove_apply]

/-! A held name keeps its holder unless a request says otherwise. -/

variable {e : HostnameID}

theorem reserveHostnamesImpl_keeps {hostnames withheld : List String}
    (hok : reserveHostnamesImpl store hostnames hID = .ok (store', withheld))
    (hin : store h = some e) (hreq : e = hID → h ∈ hostnames) :
    store' h = some e := by
  obtain ⟨-, hwithheld, -⟩ := reserveHostnamesImpl_eq_ok_iff.mp hok
  have hmem : h ∈ withheld ↔ h ∈ hostnames ∧ e ≠ hID := by simp_all [mem_withheldOf]
  rw [reserveHostnamesImpl_apply hok, hin]
  grind

theorem prepareHostnamesImpl_keeps (hok : prepareHostnamesImpl store hostnames hID = .ok store')
    (hin : store h = some e) (hreq : e ≠ hID → h ∉ hostnames) :
    store' h = some e := by
  rw [prepareHostnamesImpl_apply hok]
  grind

theorem releaseHostnamesImpl_keeps {store : HostnameMap} {hID e : HostnameID}
    (hin : store h = some e) (hother : e ≠ hID) : releaseHostnamesImpl store hID h = some e := by
  rw [releaseHostnamesImpl_apply, hin, if_neg fun hs => hother (Option.some_inj.mp hs)]

/-! ## The service -/

structure HostnameService where
  inUse : HostnameMap
  blockedHostnames : List String
  blockedDomains : List String

def hostnameSeparator : Char := '.'

/-- The configured names, those of domains without their dot, and the domains. -/
def blockedNames : List String → List String × List String
  | [] => ([], [])
  | name :: names =>
    let (blockedHostnames, blockedDomains) := blockedNames names
    match name.toList with
    | [] => (name :: blockedHostnames, blockedDomains)
    | c :: rest =>
      if c = hostnameSeparator then
        (String.ofList rest :: blockedHostnames, name :: blockedDomains)
      else (name :: blockedHostnames, blockedDomains)

/-- The map that the service starts with: the hostnames found in the cluster. -/
def initialHostnames (S : HostnameSdk) :
    List (String × LeaseID) → HostnameMap → Except HostnameErr HostnameMap
  | [], inUse => .ok inUse
  | (k, v) :: initialData, inUse => do
    let hID ← hostnameIDFromLeaseID S v
    initialHostnames S initialData (inUse.assign hID [k])

def newHostnameService (S : HostnameSdk) (cfgBlockedHostnames : List String)
    (initialData : List (String × LeaseID)) : Except HostnameErr HostnameService := do
  let (blockedHostnames, blockedDomains) := blockedNames cfgBlockedHostnames
  let inUse ← initialHostnames S initialData fun _ => none
  .ok ⟨inUse, blockedHostnames, blockedDomains⟩

def HostnameService.isHostnameBlocked (hs : HostnameService) (hostname : String) :
    Except HostnameErr Unit :=
  if hostname ∈ hs.blockedHostnames then .error (.blocked hostname)
  else if hs.blockedDomains.any fun blockedDomain =>
      blockedDomain.toList.isSuffixOf hostname.toList then .error (.domainBlocked hostname)
  else .ok ()

/-- The first blocked name of a list is an error. -/
def HostnameService.checkBlocked (hs : HostnameService) : List String → Except HostnameErr Unit
  | [] => .ok ()
  | hostname :: hostnames => do
    hs.isHostnameBlocked hostname
    hs.checkBlocked hostnames

def HostnameService.prepareHostnamesForTransfer (S : HostnameSdk) (hs : HostnameService)
    (hostnames : List String) (leaseID : LeaseID) : Except HostnameErr HostnameService := do
  let hID ← hostnameIDFromLeaseID S leaseID
  let inUse ← prepareHostnamesImpl hs.inUse hostnames hID
  .ok { hs with inUse := inUse }

def HostnameService.reserveHostnames (S : HostnameSdk) (hs : HostnameService)
    (hostnames : List String) (leaseID : LeaseID) :
    Except HostnameErr (HostnameService × List String) := do
  let lowercaseHostnames := hostnames.map S.toLower
  hs.checkBlocked lowercaseHostnames
  let hID ← hostnameIDFromLeaseID S leaseID
  let (inUse, withheldHostnames) ← reserveHostnamesImpl hs.inUse lowercaseHostnames hID
  .ok ({ hs with inUse := inUse }, withheldHostnames)

def HostnameService.releaseHostnames (S : HostnameSdk) (hs : HostnameService) (leaseID : LeaseID) :
    Except HostnameErr HostnameService := do
  let hID ← hostnameIDFromLeaseID S leaseID
  .ok { hs with inUse := releaseHostnamesImpl hs.inUse hID }

def HostnameService.canReserveHostnames (S : HostnameSdk) (hs : HostnameService)
    (hostnames : List String) (ownerAddr : String) : Except HostnameErr Unit := do
  let lowercaseHostnames := hostnames.map S.toLower
  hs.checkBlocked lowercaseHostnames
  canReserveHostnamesImpl hs.inUse lowercaseHostnames ownerAddr

namespace HostnameService

variable {S : HostnameSdk} {hs hs' : HostnameService} {hostnames withheld : List String}
  {l : LeaseID}

theorem checkBlocked_eq_ok_iff :
    hs.checkBlocked hostnames = .ok () ↔ ∀ h ∈ hostnames, hs.isHostnameBlocked h = .ok () := by
  induction hostnames with
  | nil => simp [checkBlocked]
  | cons h hostnames ih =>
    rw [List.forall_mem_cons, ← ih]
    constructor
    · intro hok
      obtain ⟨_, hh, hrest⟩ := Except.exists_of_bind_eq_ok hok
      exact ⟨hh, hrest⟩
    · rintro ⟨hh, hrest⟩
      simp only [checkBlocked, hh]
      exact hrest

theorem prepareHostnamesForTransfer_eq_ok_iff :
    hs.prepareHostnamesForTransfer S hostnames l = .ok hs' ↔
      ∃ hID store', hostnameIDFromLeaseID S l = .ok hID ∧
        prepareHostnamesImpl hs.inUse hostnames hID = .ok store' ∧
          hs' = { hs with inUse := store' } := by
  constructor
  · intro h
    obtain ⟨hID, hid, h⟩ := Except.exists_of_bind_eq_ok h
    obtain ⟨store', hstore, h⟩ := Except.exists_of_bind_eq_ok h
    simp_all
  · simp_all [prepareHostnamesForTransfer, bind, Except.bind]

theorem reserveHostnames_eq_ok_iff :
    hs.reserveHostnames S hostnames l = .ok (hs', withheld) ↔
      hs.checkBlocked (hostnames.map S.toLower) = .ok () ∧
        ∃ hID store', hostnameIDFromLeaseID S l = .ok hID ∧
          reserveHostnamesImpl hs.inUse (hostnames.map S.toLower) hID = .ok (store', withheld) ∧
            hs' = { hs with inUse := store' } := by
  constructor
  · intro h
    obtain ⟨_, hblocked, h⟩ := Except.exists_of_bind_eq_ok h
    obtain ⟨hID, hid, h⟩ := Except.exists_of_bind_eq_ok h
    obtain ⟨⟨store', _⟩, hstore, h⟩ := Except.exists_of_bind_eq_ok h
    simp_all
  · simp_all [reserveHostnames, bind, Except.bind]

theorem releaseHostnames_eq_ok_iff :
    hs.releaseHostnames S l = .ok hs' ↔
      ∃ hID, hostnameIDFromLeaseID S l = .ok hID ∧
        hs' = { hs with inUse := releaseHostnamesImpl hs.inUse hID } := by
  constructor
  · intro h
    obtain ⟨hID, hid, h⟩ := Except.exists_of_bind_eq_ok h
    injection h with h
    exact ⟨hID, hid, h.symm⟩
  · rintro ⟨hID, hid, rfl⟩
    simp only [releaseHostnames, hid, bind, Except.bind]

end HostnameService

/-! ## Requests -/

inductive HostnameRequest where
  | reserve (hostnames : List String) (leaseID : LeaseID)
  | canReserve (hostnames : List String) (ownerAddr : String)
  | prepareForTransfer (hostnames : List String) (leaseID : LeaseID)
  | release (leaseID : LeaseID)

/-- The service after a request.  A request that fails changes nothing. -/
def HostnameService.serve (S : HostnameSdk) (hs : HostnameService) :
    HostnameRequest → HostnameService
  | .reserve hostnames leaseID =>
    match hs.reserveHostnames S hostnames leaseID with
    | .ok (hs', _) => hs'
    | .error _ => hs
  | .canReserve hostnames ownerAddr =>
    -- the answer is for the caller
    match hs.canReserveHostnames S hostnames ownerAddr with
    | .ok () => hs
    | .error _ => hs
  | .prepareForTransfer hostnames leaseID =>
    match hs.prepareHostnamesForTransfer S hostnames leaseID with
    | .ok hs' => hs'
    | .error _ => hs
  | .release leaseID =>
    match hs.releaseHostnames S leaseID with
    | .ok hs' => hs'
    | .error _ => hs

namespace HostnameService

variable {S : HostnameSdk} {hs : HostnameService}

/-- What a request does to the names in use. -/
inductive Served (S : HostnameSdk) (hs : HostnameService) : HostnameRequest → HostnameMap → Prop
  | unchanged (r : HostnameRequest) : Served S hs r hs.inUse
  | reserve {hostnames withheld : List String} {l : LeaseID} {hID : HostnameID}
      {store' : HostnameMap} (hid : hostnameIDFromLeaseID S l = .ok hID)
      (himpl : reserveHostnamesImpl hs.inUse (hostnames.map S.toLower) hID =
        .ok (store', withheld)) :
      Served S hs (.reserve hostnames l) store'
  | prepareForTransfer {hostnames : List String} {l : LeaseID} {hID : HostnameID}
      {store' : HostnameMap} (hid : hostnameIDFromLeaseID S l = .ok hID)
      (himpl : prepareHostnamesImpl hs.inUse hostnames hID = .ok store') :
      Served S hs (.prepareForTransfer hostnames l) store'
  | release {l : LeaseID} {hID : HostnameID} (hid : hostnameIDFromLeaseID S l = .ok hID) :
      Served S hs (.release l) (releaseHostnamesImpl hs.inUse hID)

theorem serve_canReserve (hostnames : List String) (ownerAddr : String) :
    hs.serve S (.canReserve hostnames ownerAddr) = hs := by
  simp only [serve]
  split <;> rfl

theorem exists_served (S : HostnameSdk) (hs : HostnameService) (r : HostnameRequest) :
    ∃ store', Served S hs r store' ∧ hs.serve S r = { hs with inUse := store' } := by
  cases r with
  | reserve hostnames l =>
    simp only [serve]
    split
    · next hres => grind [reserveHostnames_eq_ok_iff, Served]
    · exact ⟨hs.inUse, .unchanged _, rfl⟩
  | canReserve hostnames ownerAddr =>
    exact ⟨hs.inUse, .unchanged _, serve_canReserve hostnames ownerAddr⟩
  | prepareForTransfer hostnames l =>
    simp only [serve]
    split
    · next hres => grind [prepareHostnamesForTransfer_eq_ok_iff, Served]
    · exact ⟨hs.inUse, .unchanged _, rfl⟩
  | release l =>
    simp only [serve]
    split
    · next hres =>
      obtain ⟨hID, hid, rfl⟩ := releaseHostnames_eq_ok_iff.mp hres
      exact ⟨_, .release hid, rfl⟩
    · exact ⟨hs.inUse, .unchanged _, rfl⟩

end HostnameService

end AkashProvider
