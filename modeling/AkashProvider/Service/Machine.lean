import AkashProvider.Lib.Forall2
import AkashProvider.Lib.Run
import AkashProvider.Inventory.Loop
import AkashProvider.Service.Reservation

/-!
# The loop of the inventory service

One event is one branch of the select loop of `run`, and `step` is `none` if it is not enabled or
the source would panic.  Branches that only answer (lookup, status) are left out.  A channel
variable that is nil or not is a flag (`reservech`), one of capacity one an option (`invupch`).
`reservations` is a list of pointers: `setFirst` assigns through the first that matches.
-/

namespace AkashProvider

/-! ## Events and state -/

/-- `event.ClusterDeploymentStatus`. -/
inductive DeploymentStatus where
  | unknown
  | updated
  | pending
  | deployed
deriving DecidableEq

/-- An order whose addresses a check looks up, and how many it should have. -/
structure ConfirmationItem where
  orderID : OrderID
  expectedQuantity : Nat

structure RunCheckResult where
  ipResult : AddressUsage
  confirmedResult : List OrderID

inductive ServiceEvent where
  | clusterDeployment (lease : LeaseID) (group : String) (status : DeploymentStatus)
  | tick
  | reserve (order : OrderID) (resources : ResourceGroup)
  | unreserve (order : OrderID)
  /-- A value on the channel of the inventory client. -/
  | inventoryUpdate (inv : Option Inventory)
  /-- The inventory in `invupch` is taken into use. -/
  | applyInventory
  /-- The check in flight ends.  `none` is an error. -/
  | checkResult (res : Option RunCheckResult)

structure ServiceState where
  inventory : Option Inventory
  currinv : Option Inventory
  invupch : Option Inventory
  reservech : Bool
  runch : Option (List ConfirmationItem)
  timer : Bool
  ipAddrUsage : AddressUsage
  reservations : List Reservation
  availableExternalPorts : UInt64
  /-- The next pointer. -/
  nextRef : Nat

/-- The state at the head of the loop, with the reservations of the leases found running, each
a pointer of its own. -/
def startState (cfg : ServiceConfig) (reservations : List Reservation) : ServiceState where
  inventory := none
  currinv := none
  invupch := none
  reservech := false
  runch := none
  timer := false
  ipAddrUsage := ⟨0, 0⟩
  reservations := reservations.mapIdx fun i r => { r with ref := i }
  availableExternalPorts := cfg.inventoryExternalPortQuantity
  nextRef := reservations.length

/-- The service at start-up, with a reservation for each deployment that is running. -/
def newInventoryService (cfg : ServiceConfig) (deployments : List Deployment) : ServiceState :=
  startState cfg (deployments.map recoveredReservation)

/-! ## Parts of the branches -/

/-- Assign through the first pointer that matches. -/
def setFirst (p : Reservation → Bool) (f : Reservation → Reservation) :
    List Reservation → List Reservation
  | [] => []
  | r :: rest => if p r then f r :: rest else r :: setFirst p f rest

/-- What `runCheck` looks up: allocated reservations that are not confirmed. -/
def confirmationItems (reservations : List Reservation) : List ConfirmationItem :=
  (reservations.filter fun r => !r.ipsConfirmed && r.allocated).map fun r =>
    ⟨r.order, r.endpointQuantity⟩

def updateIPs (cfg : ServiceConfig) (s : ServiceState) : ServiceState :=
  if cfg.hasIPClient then
    match s.runch with
    | none =>
      { s with reservech := false, timer := false,
               runch := some (confirmationItems s.reservations) }
    | some _ => { s with reservech := false }
  else if s.reservech = false ∧ s.inventory.isSome then { s with reservech := true }
  else s

/-- The reservation a deployment event is about. -/
def isOf (lease : LeaseID) (group : String) (r : Reservation) : Bool :=
  r.order = lease.orderID ∧ r.resources.name = group

def setAllocated (status : DeploymentStatus) (r : Reservation) : Reservation :=
  { r with allocated := decide (status = .deployed) }

def reservationCountEndpoints (r : Reservation) : UInt64 :=
  .ofNat (countRandomPorts r.resources.resourceUnits)

/-- The branch of `ClusterDeployment`, up to the call of `updateIPs`. -/
def markDeployment (s : ServiceState) (lease : LeaseID) (group : String)
    (status : DeploymentStatus) : ServiceState :=
  match s.reservations.find? (isOf lease group) with
  | none => s
  | some r =>
    let s := { s with
      reservations := setFirst (isOf lease group) (setAllocated status) s.reservations }
    if decide (status = .deployed) = r.allocated then s
    else
      { s with
        availableExternalPorts :=
          if status = .deployed then s.availableExternalPorts - reservationCountEndpoints r
          else s.availableExternalPorts + reservationCountEndpoints r
        -- the send does not block: a full channel keeps what it has
        invupch := s.invupch.or s.currinv }

/-- Why a reservation was refused.  `nilInventory` is the panic of `Adjust` on nil. -/
inductive ReserveErr where
  | noLeasedIPsAvailable
  | insufficientIPs (quantity : Nat)
  | adjust (err : AdjustErr)
  | nilInventory

/-- The reservation that a request asks for, before any check. -/
def requested (cfg : ServiceConfig) (s : ServiceState) (order : OrderID) (rg : ResourceGroup) :
    Reservation :=
  let r := newReservation s.nextRef order (resourcesToCommit cfg rg)
  { r with ipsConfirmed := decide (r.endpointQuantity = 0), teeType := teeTypeFromResourceGroup rg }

/-- The check for leased IPs in `handleRequest`. -/
def checkIPs (cfg : ServiceConfig) (s : ServiceState) (r : Reservation) : Option ReserveErr :=
  if r.endpointQuantity = 0 then none
  else if !cfg.hasIPClient then some .noLeasedIPsAvailable
  else if r.endpointQuantity > availableLeasedIPs s.ipAddrUsage.available s.ipAddrUsage.inUse
      (countReservedIPs s.reservations) then some (.insufficientIPs r.endpointQuantity)
  else none

def handleRequest (cfg : ServiceConfig) (s : ServiceState) (order : OrderID)
    (rg : ResourceGroup) : ServiceState × Except ReserveErr Reservation :=
  let r := requested cfg s order rg
  match checkIPs cfg s r with
  | some err => (s, .error err)
  | none =>
    match s.inventory with
    | none => (s, .error .nilInventory)
    | some inv =>
      match r.adjust cfg inv with
      | (inv, .error err) => ({ s with inventory := some inv }, .error (.adjust err))
      | (inv, .ok r) =>
        ({ s with
          inventory := some inv
          reservations := s.reservations ++ [r]
          nextRef := s.nextRef + 1 }, .ok r)

/-- The checks of `reserve` before it sends the request. -/
def hasAllResources (rg : ResourceGroup) : Bool :=
  rg.resourceUnits.all fun u =>
    u.resources.cpu.isSome && u.resources.gpu.isSome && u.resources.memory.isSome

/-- Pending reservations are adjusted again, in order.  An error is logged. -/
def readjust (cfg : ServiceConfig) : Inventory → List Reservation → Inventory × List Reservation
  | inv, [] => (inv, [])
  | inv, r :: rest =>
    if r.allocated then
      let out := readjust cfg inv rest
      (out.1, r :: out.2)
    else
      match r.adjust cfg inv with
      | (inv, .error _) =>
        let out := readjust cfg inv rest
        (out.1, r :: out.2)
      | (inv, .ok r) =>
        let out := readjust cfg inv rest
        (out.1, r :: out.2)

/-- The first reservation of each confirmed order is marked. -/
def confirmIPs (reservations : List Reservation) (confirmed : List OrderID) : List Reservation :=
  confirmed.foldl (fun rs o => setFirst (·.order = o) (fun r => { r with ipsConfirmed := true }) rs)
    reservations

/-! ## Steps -/

def applyInventory (cfg : ServiceConfig) (s : ServiceState) (inv : Inventory) : ServiceState :=
  let s := updateIPs cfg { s with invupch := none, currinv := some inv, inventory := some inv }
  let out := readjust cfg inv s.reservations
  { s with inventory := some out.1, reservations := out.2 }

def applyCheck (s : ServiceState) (res : Option RunCheckResult) : ServiceState :=
  let s := { s with runch := none, timer := true, reservech := true }
  match res with
  | none => s
  | some res =>
    { s with
      ipAddrUsage := res.ipResult
      reservations := confirmIPs s.reservations res.confirmedResult }

def unreserve (s : ServiceState) (order : OrderID) : ServiceState :=
  match s.reservations.find? (·.order = order) with
  | none => s
  | some r =>
    { s with
      reservations := s.reservations.eraseP (·.order = order)
      availableExternalPorts :=
        if r.allocated then s.availableExternalPorts + reservationCountEndpoints r
        else s.availableExternalPorts }

def serviceStep (cfg : ServiceConfig) (s : ServiceState) : ServiceEvent → Option ServiceState
  | .clusterDeployment lease group status =>
    some (updateIPs cfg (markDeployment s lease group status))
  | .tick => if s.timer then some (updateIPs cfg { s with timer := false }) else none
  | .reserve order rg =>
    if s.reservech ∧ hasAllResources rg then
      match handleRequest cfg s order rg with
      | (_, .error .nilInventory) => none
      | (s, _) => some s
    else none
  | .unreserve order => some (unreserve s order)
  | .inventoryUpdate none => some s
  | .inventoryUpdate (some inv) => some { s with invupch := some inv }
  | .applyInventory => s.invupch.map (applyInventory cfg s)
  | .checkResult res => if s.runch.isSome then some (applyCheck s res) else none

/-! ## What the branches leave alone -/

section Frames

variable {cfg : ServiceConfig} {s : ServiceState}

theorem updateIPs_cases (cfg : ServiceConfig) (s : ServiceState) :
    updateIPs cfg s = s ∨
    (cfg.hasIPClient = true ∧ s.runch = none ∧ updateIPs cfg s =
      { s with reservech := false, timer := false,
               runch := some (confirmationItems s.reservations) }) ∨
    (cfg.hasIPClient = true ∧ s.runch.isSome ∧ updateIPs cfg s = { s with reservech := false }) ∨
    (cfg.hasIPClient = false ∧ s.inventory.isSome ∧
      updateIPs cfg s = { s with reservech := true }) := by
  simp only [updateIPs]
  grind

@[simp] theorem updateIPs_inventory : (updateIPs cfg s).inventory = s.inventory := by
  obtain h | ⟨-, -, h⟩ | ⟨-, -, h⟩ | ⟨-, -, h⟩ := updateIPs_cases cfg s <;> rw [h]

@[simp] theorem updateIPs_currinv : (updateIPs cfg s).currinv = s.currinv := by
  obtain h | ⟨-, -, h⟩ | ⟨-, -, h⟩ | ⟨-, -, h⟩ := updateIPs_cases cfg s <;> rw [h]

@[simp] theorem updateIPs_invupch : (updateIPs cfg s).invupch = s.invupch := by
  obtain h | ⟨-, -, h⟩ | ⟨-, -, h⟩ | ⟨-, -, h⟩ := updateIPs_cases cfg s <;> rw [h]

@[simp] theorem updateIPs_reservations : (updateIPs cfg s).reservations = s.reservations := by
  obtain h | ⟨-, -, h⟩ | ⟨-, -, h⟩ | ⟨-, -, h⟩ := updateIPs_cases cfg s <;> rw [h]

@[simp] theorem updateIPs_ipAddrUsage : (updateIPs cfg s).ipAddrUsage = s.ipAddrUsage := by
  obtain h | ⟨-, -, h⟩ | ⟨-, -, h⟩ | ⟨-, -, h⟩ := updateIPs_cases cfg s <;> rw [h]

@[simp] theorem updateIPs_nextRef : (updateIPs cfg s).nextRef = s.nextRef := by
  obtain h | ⟨-, -, h⟩ | ⟨-, -, h⟩ | ⟨-, -, h⟩ := updateIPs_cases cfg s <;> rw [h]

theorem setFirst_of_find?_eq_none {p : Reservation → Bool} (f : Reservation → Reservation)
    {rs : List Reservation} (h : rs.find? p = none) : setFirst p f rs = rs := by
  induction rs with
  | nil => rfl
  | cons r rest ih => simp_all [setFirst]

variable (s) (lease : LeaseID) (group : String) (status : DeploymentStatus)

theorem markDeployment_eq : ∃ ports invupch, markDeployment s lease group status =
    { s with
      reservations := setFirst (isOf lease group) (setAllocated status) s.reservations
      availableExternalPorts := ports
      invupch := invupch } ∧ (invupch = s.invupch ∨ invupch = s.invupch.or s.currinv) := by
  simp only [markDeployment]
  cases hfind : s.reservations.find? (isOf lease group) with
  | none =>
    refine ⟨s.availableExternalPorts, s.invupch, ?_, .inl rfl⟩
    rw [setFirst_of_find?_eq_none _ hfind]
  | some r =>
    simp only
    split
    all_goals grind

end Frames

/-! ## What a step can do -/

/-- The steps of the service, one constructor for each way a branch can go. -/
inductive ServiceMove (cfg : ServiceConfig) (s : ServiceState) :
    ServiceEvent → ServiceState → Prop
  | deployment (lease : LeaseID) (group : String) (status : DeploymentStatus) (ports : UInt64)
      (invupch : Option Inventory)
      (back : invupch = s.invupch ∨ invupch = s.invupch.or s.currinv) :
      ServiceMove cfg s (.clusterDeployment lease group status)
        (updateIPs cfg { s with
          reservations := setFirst (isOf lease group) (setAllocated status) s.reservations
          availableExternalPorts := ports
          invupch := invupch })
  | tick : ServiceMove cfg s .tick (updateIPs cfg { s with timer := false })
  | refuse (order : OrderID) (rg : ResourceGroup) : ServiceMove cfg s (.reserve order rg) s
  | grant (order : OrderID) (rg : ResourceGroup) (inv inv' : Inventory) (r : Reservation)
      (enabled : s.reservech = true)
      (ips : checkIPs cfg s (requested cfg s order rg) = none)
      (before : s.inventory = some inv)
      (ok : (requested cfg s order rg).adjust cfg inv = (inv', .ok r)) :
      ServiceMove cfg s (.reserve order rg)
        { s with
          inventory := some inv'
          reservations := s.reservations ++ [r]
          nextRef := s.nextRef + 1 }
  | unreserve (order : OrderID) (ports : UInt64) :
      ServiceMove cfg s (.unreserve order)
        { s with
          reservations := s.reservations.eraseP (·.order = order)
          availableExternalPorts := ports }
  | ignore : ServiceMove cfg s (.inventoryUpdate none) s
  | store (inv : Inventory) :
      ServiceMove cfg s (.inventoryUpdate (some inv)) { s with invupch := some inv }
  | apply (inv : Inventory) (stored : s.invupch = some inv) :
      ServiceMove cfg s .applyInventory (applyInventory cfg s inv)
  | check (items : List ConfirmationItem) (res : Option RunCheckResult)
      (running : s.runch = some items) : ServiceMove cfg s (.checkResult res) (applyCheck s res)

section Moves

variable {cfg : ServiceConfig} {s s' : ServiceState}

variable {inv inv' : Inventory} {r : Reservation}

theorem Reservation.adjust_eq_error {err : AdjustErr} (h : r.adjust cfg inv = (inv', .error err)) :
    inv' = inv := by
  simp only [Reservation.adjust] at h
  split at h
  next hadj =>
    simp only [Prod.mk.injEq] at h
    rw [← h.1]
    exact AkashProvider.adjust_eq_error hadj
  next => cases h

theorem Reservation.adjust_eq_ok {r r' : Reservation} (h : r.adjust cfg inv = (inv', .ok r')) :
    ∃ g, AkashProvider.adjust cfg.sdk inv r.resources (adjustOpts cfg r.teeType) = (inv', .ok g) ∧
      r' = { r with
        adjustedResources := g.allocatedResources
        clusterParams := .reservationSettings g.clusterParams } := by
  simp only [Reservation.adjust] at h
  split at h
  next => cases h
  next inv₁ g hadj => simp_all

theorem handleRequest_cases (cfg : ServiceConfig) (s : ServiceState) (order : OrderID)
    (rg : ResourceGroup) :
    (∃ err, handleRequest cfg s order rg = (s, .error err)) ∨
    ∃ inv inv' r, checkIPs cfg s (requested cfg s order rg) = none ∧ s.inventory = some inv ∧
      (requested cfg s order rg).adjust cfg inv = (inv', .ok r) ∧
      handleRequest cfg s order rg =
        ({ s with
          inventory := some inv'
          reservations := s.reservations ++ [r]
          nextRef := s.nextRef + 1 }, .ok r) := by
  simp only [handleRequest]
  cases hips : checkIPs cfg s (requested cfg s order rg) with
  | some err => exact .inl ⟨err, rfl⟩
  | none =>
    cases hinv : s.inventory with
    | none => exact .inl ⟨_, rfl⟩
    | some inv =>
      rcases hadj : (requested cfg s order rg).adjust cfg inv with ⟨inv', verdict⟩
      cases verdict with
      | error err =>
        have hsame := Reservation.adjust_eq_error hadj
        subst hsame
        refine .inl ⟨.adjust err, ?_⟩
        simp only [hadj, ← hinv]
      | ok r => exact .inr ⟨inv, inv', r, rfl, rfl, hadj, by simp only [hadj]⟩

theorem handleRequest_eq_ok {cfg : ServiceConfig} {s s' : ServiceState} {order : OrderID}
    {rg : ResourceGroup} (h : handleRequest cfg s order rg = (s', .ok r)) :
    ∃ inv inv', checkIPs cfg s (requested cfg s order rg) = none ∧ s.inventory = some inv ∧
      (requested cfg s order rg).adjust cfg inv = (inv', .ok r) ∧
      s' = { s with
        inventory := some inv'
        reservations := s.reservations ++ [r]
        nextRef := s.nextRef + 1 } := by
  obtain ⟨err, he⟩ | ⟨inv, inv', r', hips, hinv, hadj, he⟩ := handleRequest_cases cfg s order rg
  · rw [he] at h
    cases h
  · grind

theorem serviceStep_move {e : ServiceEvent} (h : serviceStep cfg s e = some s') :
    ServiceMove cfg s e s' := by
  cases e with
  | clusterDeployment lease group status =>
    injection h with h
    subst h
    obtain ⟨ports, invupch, he, hback⟩ := markDeployment_eq s lease group status
    rw [he]
    exact .deployment lease group status ports invupch hback
  | tick =>
    simp only [serviceStep] at h
    split at h
    next =>
      injection h with h
      subst h
      exact .tick
    next => cases h
  | reserve order rg =>
    simp only [serviceStep] at h
    split at h
    next hres =>
      obtain ⟨err, he⟩ | ⟨inv, inv', r, hips, hinv, hadj, he⟩ := handleRequest_cases cfg s order rg
      · rw [he] at h
        split at h
        next => cases h
        next hout =>
          injection h with h
          simp only [Prod.mk.injEq] at hout
          rw [← h, ← hout.1]
          exact .refuse order rg
      · rw [he] at h
        injection h with h
        subst h
        exact .grant order rg inv inv' r hres.1 hips hinv hadj
    next => cases h
  | unreserve order =>
    injection h with h
    subst h
    simp only [unreserve]
    cases hfind : s.reservations.find? (·.order = order) with
    | some r => exact .unreserve order _
    | none =>
      have herase : s.reservations.eraseP (·.order = order) = s.reservations :=
        List.eraseP_of_forall_not (List.find?_eq_none.mp hfind)
      have hmove : ServiceMove cfg s (.unreserve order) _ :=
        .unreserve order s.availableExternalPorts
      rw [herase] at hmove
      exact hmove
  | inventoryUpdate inv =>
    cases inv with
    | none =>
      injection h with h
      subst h
      exact .ignore
    | some inv =>
      injection h with h
      subst h
      exact .store inv
  | applyInventory =>
    obtain ⟨inv, hinv, h⟩ := Option.map_eq_some_iff.mp h
    subst h
    exact .apply inv hinv
  | checkResult res =>
    simp only [serviceStep] at h
    split at h
    next hrun =>
      obtain ⟨items, hitems⟩ := Option.isSome_iff_exists.mp hrun
      injection h with h
      subst h
      exact .check items res hitems
    next => cases h

end Moves

/-! ## Reservations keep what identifies them -/

/-- `r'` is `r` with other terms or flags. -/
@[grind cases]
structure Reservation.Kept (r r' : Reservation) : Prop where
  ref_eq : r'.ref = r.ref
  order_eq : r'.order = r.order
  resources_eq : r'.resources = r.resources
  endpointQuantity_eq : r'.endpointQuantity = r.endpointQuantity
  teeType_eq : r'.teeType = r.teeType

theorem Reservation.Kept.refl (r : Reservation) : r.Kept r := ⟨rfl, rfl, rfl, rfl, rfl⟩

section Kept

variable {R : Reservation → Reservation → Prop} {cfg : ServiceConfig}

theorem setFirst_forall₂ {p : Reservation → Bool} {f : Reservation → Reservation}
    (hrefl : ∀ r, R r r) (hf : ∀ r, p r = true → R r (f r)) (rs : List Reservation) :
    List.Forall₂ R rs (setFirst p f rs) := by
  induction rs with
  | nil => exact .nil
  | cons r rest ih =>
    rw [setFirst]
    split
    next h => exact .cons (hf r h) (List.forall₂_same.mpr fun x _ => hrefl x)
    next => exact .cons (hrefl r) ih

/-- What confirming `orders` can do to one reservation. -/
@[grind cases]
structure Confirmed (orders : List OrderID) (r r' : Reservation) : Prop where
  eq_with : r' = { r with ipsConfirmed := r'.ipsConfirmed }
  of_confirmed : r'.ipsConfirmed = true → r.ipsConfirmed = true ∨ r.order ∈ orders

theorem Confirmed.refl (orders : List OrderID) (r : Reservation) : Confirmed orders r r :=
  ⟨rfl, .inl⟩

variable {orders : List OrderID}

theorem Confirmed.trans {r₁ r₂ r₃ : Reservation} (h₁ : Confirmed orders r₁ r₂)
    (h₂ : Confirmed orders r₂ r₃) : Confirmed orders r₁ r₃ := by
  constructor <;> grind

variable {r r' : Reservation}

theorem Confirmed.kept (h : Confirmed orders r r') :
    r.Kept r' := by
  rw [h.eq_with]
  exact ⟨rfl, rfl, rfl, rfl, rfl⟩

theorem Confirmed.cons (h : Confirmed orders r r') (o : OrderID) : Confirmed (o :: orders) r r' :=
  ⟨h.eq_with, fun hc => (h.of_confirmed hc).imp_right (List.mem_cons_of_mem o)⟩

theorem confirmIPs_forall₂ (confirmed : List OrderID) :
    ∀ rs : List Reservation, List.Forall₂ (Confirmed confirmed) rs (confirmIPs rs confirmed) := by
  induction confirmed with
  | nil => exact fun rs => List.forall₂_same.mpr fun r _ => .refl _ r
  | cons o rest ih =>
    intro rs
    have hfirst := setFirst_forall₂ (Confirmed.refl (o :: rest))
      (p := (·.order = o)) (f := fun r => { r with ipsConfirmed := true })
      (fun r hr => ⟨rfl, fun _ => .inr (List.mem_cons.mpr (.inl (of_decide_eq_true hr)))⟩) rs
    have hrest := (ih (setFirst (·.order = o) (fun r => { r with ipsConfirmed := true }) rs)).imp
      fun _ _ h => h.cons o
    exact hfirst.comp (fun _ _ _ h₁ h₂ => h₁.trans h₂) hrest

/-- What readjusting can do to one reservation: its terms change, if it is pending. -/
@[grind cases]
structure Readjusted (r r' : Reservation) : Prop where
  kept : r.Kept r'
  allocated_eq : r'.allocated = r.allocated
  ipsConfirmed_eq : r'.ipsConfirmed = r.ipsConfirmed
  eq_of_allocated : r.allocated = true → r' = r

theorem Readjusted.refl (r : Reservation) : Readjusted r r := ⟨.refl r, rfl, rfl, fun _ => rfl⟩

theorem Reservation.adjust_kept {inv inv' : Inventory} (h : r.adjust cfg inv = (inv', .ok r')) :
    r.Kept r' := by
  obtain ⟨g, -, he⟩ := Reservation.adjust_eq_ok h
  subst he
  exact ⟨rfl, rfl, rfl, rfl, rfl⟩

theorem readjust_adjusts (cfg : ServiceConfig) (rs : List Reservation) :
    ∀ inv, List.Forall₂ (fun r r' => r' = r ∨ r.allocated = false ∧
      ∃ inv₁ inv₂, r.adjust cfg inv₁ = (inv₂, .ok r')) rs (readjust cfg inv rs).2 := by
  induction rs with
  | nil => exact fun _ => .nil
  | cons r rest ih =>
    intro inv
    rw [readjust]
    cases halloc : r.allocated with
    | true => exact .cons (.inl rfl) (ih inv)
    | false =>
      rcases hadj : r.adjust cfg inv with ⟨inv', verdict⟩
      cases verdict with
      | error err => exact .cons (.inl rfl) (ih inv')
      | ok r' => exact .cons (.inr ⟨halloc, inv, inv', hadj⟩) (ih inv')

theorem readjust_forall₂ (cfg : ServiceConfig) (rs : List Reservation) (inv : Inventory) :
    List.Forall₂ Readjusted rs (readjust cfg inv rs).2 := by
  refine (readjust_adjusts cfg rs inv).imp ?_
  rintro r r' (rfl | ⟨halloc, inv₁, inv₂, hadj⟩)
  · exact .refl _
  · obtain ⟨g, -, he⟩ := Reservation.adjust_eq_ok hadj
    refine ⟨Reservation.adjust_kept hadj, ?_, ?_, ?_⟩
    · rw [he]
    · rw [he]
    · intro h
      rw [halloc] at h
      cases h

end Kept

/-- A configuration that commits what is requested. -/
def plainConfig (hasIPClient : Bool) : ServiceConfig where
  sdk := .reference
  hasIPClient := hasIPClient
  teePlatform := .none
  cpuCommit := id
  gpuCommit := id
  memoryCommit := id
  storageCommit := id
  inventoryExternalPortQuantity := 1000

/-- The order and the lease number `n` of one owner. -/
def orderNo (n : UInt64) : OrderID := ⟨"owner", n, 1, 1⟩
def leaseNo (n : UInt64) : LeaseID := ⟨"owner", n, 1, 1, "provider"⟩

end AkashProvider
