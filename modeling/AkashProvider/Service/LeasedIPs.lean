import AkashProvider.Inventory.Placement
import AkashProvider.Service.Machine

/-!
# Leased IPs and the operator that assigns them

An IP operator assigns addresses to orders.  A check reads the usage of all addresses first and
the addresses of each unconfirmed order after that.  An address that is assigned in between is
found but was not counted, and is promised twice (`leased_ips_over_promised`).  If every address
found was counted, the addresses of all live reservations are there at every grant
(`leased_ips_within_total`).
-/

namespace AkashProvider

/-! ## The service next to the operator -/

/-- How far the check in flight has come. -/
inductive CheckProgress where
  /-- Usage was read when the addresses of `seen` were assigned. -/
  | reading (seen : List OrderID) (todo : List ConfirmationItem) (confirmed : List OrderID)
  /-- The usage read failed. -/
  | failed

structure IPWorld where
  svc : ServiceState
  /-- The order of each address in use. -/
  assigned : List OrderID
  /-- Nothing before the usage read. -/
  progress : Option CheckProgress

inductive IPEvent where
  | service (e : ServiceEvent)
  | assign (order : OrderID)
  /-- `GetIPAddressUsage`, without an error or with one. -/
  | readUsage (ok : Bool)
  /-- `GetIPAddressStatus` of the next order. -/
  | readStatus (ok : Bool)
  | result

/-- One round of the loop in `runCheck`. -/
def confirmItem (assigned confirmed : List OrderID) (item : ConfirmationItem) (ok : Bool) :
    List OrderID :=
  if ok ∧ assigned.count item.orderID = item.expectedQuantity then confirmed ++ [item.orderID]
  else confirmed

/-- What the check sends when it has come to its end. -/
def CheckProgress.outcome (total : Nat) : CheckProgress → Option (Option RunCheckResult)
  | .reading seen [] confirmed => some (some ⟨⟨total, seen.length⟩, confirmed⟩)
  | .reading _ (_ :: _) _ => none
  | .failed => some none

def ipStep (cfg : ServiceConfig) (total : Nat) (w : IPWorld) : IPEvent → Option IPWorld
  -- results come from the check only
  | .service (.checkResult _) => none
  | .service e => (serviceStep cfg w.svc e).map fun s => { w with svc := s }
  | .assign order =>
    if (∃ r ∈ w.svc.reservations, r.order = order ∧ r.allocated = true) ∧
        w.assigned.length < total then
      some { w with assigned := order :: w.assigned }
    else none
  | .readUsage ok =>
    match w.svc.runch, w.progress with
    | some items, none =>
      some { w with
        progress := some (if ok then .reading w.assigned items [] else .failed) }
    | _, _ => none
  | .readStatus ok =>
    match w.progress with
    | some (.reading seen (item :: todo) confirmed) =>
      some { w with
        progress := some (.reading seen todo (confirmItem w.assigned confirmed item ok)) }
    | _ => none
  | .result => do
    let res ← (← w.progress).outcome total
    let s ← serviceStep cfg w.svc (.checkResult res)
    pure { w with svc := s, progress := none }

def startIPWorld (cfg : ServiceConfig) (deployments : List Deployment) (assigned : List OrderID) :
    IPWorld :=
  ⟨newInventoryService cfg deployments, assigned, none⟩

/-- The addresses that all live reservations need. -/
def neededIPs (reservations : List Reservation) : Nat :=
  (reservations.map (·.endpointQuantity)).sum

/-- The addresses that a check finds were counted by its usage read, and an order is not
reserved twice. -/
def CountedInUse (w : IPWorld) : IPEvent → Prop
  | .readStatus true =>
    match w.progress with
    | some (.reading seen (item :: _) _) =>
      w.assigned.count item.orderID = item.expectedQuantity →
        seen.count item.orderID = item.expectedQuantity
    | _ => True
  | .service (.reserve order _) => ∀ r ∈ w.svc.reservations, r.order ≠ order
  | _ => True

/-! ## Promises

What the IP bookkeeping sees of a reservation. -/

/-- The addresses that were promised to an order. -/
structure Promise where
  order : OrderID
  quantity : Nat
  confirmed : Bool

def Reservation.promise (r : Reservation) : Promise :=
  ⟨r.order, r.endpointQuantity, r.ipsConfirmed⟩

def promises (s : ServiceState) : List Promise := s.reservations.map (·.promise)

def confirmedIPs (ps : List Promise) : Nat :=
  (ps.map fun p => if p.confirmed then p.quantity else 0).sum

/-- The promise of an item's order is for what the check expects. -/
def ItemsOf (items : List ConfirmationItem) (ps : List Promise) : Prop :=
  ∀ item ∈ items, ∀ p ∈ ps, p.order = item.orderID → p.quantity = item.expectedQuantity

theorem neededIPs_eq (s : ServiceState) :
    neededIPs s.reservations = confirmedIPs (promises s) + countReservedIPs s.reservations := by
  simp only [neededIPs, confirmedIPs, promises, countReservedIPs, List.map_map, ← List.sum_map_add]
  grind [Reservation.promise]

theorem confirmedIPs_append (ps qs : List Promise) :
    confirmedIPs (ps ++ qs) = confirmedIPs ps + confirmedIPs qs := by
  simp [confirmedIPs]

theorem confirmedIPs_sublist {ps qs : List Promise} (h : ps.Sublist qs) :
    confirmedIPs ps ≤ confirmedIPs qs :=
  (h.map _).sum_le_sum fun _ _ => Nat.zero_le _

theorem sum_count_le_length {orders : List OrderID} (h : orders.Nodup) (assigned : List OrderID) :
    (orders.map assigned.count).sum ≤ assigned.length := by
  have hsub : orders.toFinset ⊆ orders.toFinset ∪ assigned.toFinset := Finset.subset_union_left
  have hall : ∑ o ∈ orders.toFinset ∪ assigned.toFinset, (assigned : Multiset OrderID).count o =
      assigned.length :=
    Multiset.sum_count_eq_card fun o ho => Finset.mem_union_right _ (List.mem_toFinset.mpr ho)
  simp only [Multiset.coe_count] at hall
  rw [← List.sum_toFinset _ h, ← hall]
  exact Finset.sum_le_sum_of_subset (M := Nat) hsub

theorem confirmedIPs_le {ps : List Promise} {assigned : List OrderID}
    (hnodup : (ps.map (·.order)).Nodup)
    (hheld : ∀ p ∈ ps, p.confirmed = true → p.quantity ≤ assigned.count p.order) :
    confirmedIPs ps ≤ assigned.length := by
  calc confirmedIPs ps ≤ (ps.map fun p => assigned.count p.order).sum := by
        refine List.sum_le_sum fun p hp => ?_
        split
        next hc => exact hheld p hp hc
        next => exact Nat.zero_le _
    _ = ((ps.map (·.order)).map assigned.count).sum := by rw [List.map_map]; rfl
    _ ≤ assigned.length := sum_count_le_length hnodup assigned

/-- With one promise to an order, the items of a check are for what was promised. -/
theorem confirmationItems_itemsOf {s : ServiceState}
    (hnodup : ((promises s).map (·.order)).Nodup) :
    ItemsOf (confirmationItems s.reservations) (promises s) := by
  intro item hitem p hp horder
  obtain ⟨r, hr, rfl⟩ := List.mem_map.mp hitem
  have hmem : r.promise ∈ promises s := List.mem_map_of_mem (List.mem_of_mem_filter hr)
  have heq : p = r.promise := List.inj_on_of_nodup_map hnodup hp hmem horder
  rw [heq]
  rfl

/-! ## What the branches do to promises -/

section Moves

variable {cfg : ServiceConfig} {s s' : ServiceState}

theorem updateIPs_of_hasIPClient (hip : cfg.hasIPClient = true) :
    (updateIPs cfg s).reservech = false ∧
      ((updateIPs cfg s).runch = s.runch ∨
        (updateIPs cfg s).runch = some (confirmationItems s.reservations)) := by
  simp only [updateIPs, hip, if_true]
  split
  next => exact ⟨rfl, .inr rfl⟩
  next hrun => exact ⟨rfl, .inl rfl⟩

theorem promise_setAllocated (lease : LeaseID) (group : String) (status : DeploymentStatus)
    (rs : List Reservation) :
    (setFirst (isOf lease group) (setAllocated status) rs).map (·.promise) =
      rs.map (·.promise) := by
  induction rs with
  | nil => rfl
  | cons r rest ih =>
    rw [setFirst]
    split
    next => rfl
    next => rw [List.map_cons, List.map_cons, ih]

theorem readjusted_view {rs rs' : List Reservation} (h : List.Forall₂ Readjusted rs rs') :
    rs'.map (·.promise) = rs.map (·.promise) ∧ confirmationItems rs' = confirmationItems rs := by
  induction h with
  | nil => exact ⟨rfl, rfl⟩
  | @cons r r' rest rest' hr _ ih =>
    obtain ⟨hpromises, hitems⟩ := ih
    refine ⟨?_, ?_⟩
    · grind [Reservation.promise]
    · simp only [confirmationItems] at hitems ⊢
      grind

/-- A branch other than a check result keeps or drops promises, and may start a check with
them.  A grant adds one, with no check in flight. -/
theorem ServiceMove.promises (hip : cfg.hasIPClient = true) {e : ServiceEvent}
    (hmove : ServiceMove cfg s e s') (hno : ∀ res, e ≠ .checkResult res)
    (hclosed : s.reservech = true → s.runch = none) :
    s'.ipAddrUsage = s.ipAddrUsage ∧ (s'.reservech = true → s'.runch = none) ∧
    (((promises s').Sublist (promises s) ∧
        (s'.runch = s.runch ∨ s'.runch = some (confirmationItems s'.reservations))) ∨
      ∃ order rg p, e = .reserve order rg ∧ s.runch = none ∧ s'.runch = none ∧
        promises s' = promises s ++ [p] ∧ p.order = order ∧
        (p.confirmed = true → p.quantity = 0)) := by
  cases hmove with
  | deployment lease group status ports invupch back =>
    obtain ⟨hres, hrun⟩ := updateIPs_of_hasIPClient (s := { s with
      reservations := setFirst (isOf lease group) (setAllocated status) s.reservations
      availableExternalPorts := ports
      invupch := invupch }) hip
    simp_all [AkashProvider.promises, updateIPs_reservations, promise_setAllocated]
  | tick =>
    obtain ⟨hres, hrun⟩ := updateIPs_of_hasIPClient (s := { s with timer := false }) hip
    simp_all [AkashProvider.promises, updateIPs_reservations]
  | refuse => exact ⟨rfl, hclosed, .inl ⟨List.Sublist.refl _, .inl rfl⟩⟩
  | grant order rg inv inv' r enabled ips before ok =>
    have hkept := Reservation.adjust_kept ok
    obtain ⟨g, -, hr⟩ := Reservation.adjust_eq_ok ok
    refine ⟨rfl, hclosed, .inr ⟨order, rg, r.promise, rfl, hclosed enabled, hclosed enabled,
      ?_, hkept.order_eq, ?_⟩⟩
    · simp [AkashProvider.promises]
    · intro hc
      rw [hr] at hc ⊢
      exact of_decide_eq_true hc
  | unreserve order ports =>
    refine ⟨rfl, hclosed, .inl ⟨?_, .inl rfl⟩⟩
    exact List.Sublist.map _ List.eraseP_sublist
  | ignore => exact ⟨rfl, hclosed, .inl ⟨List.Sublist.refl _, .inl rfl⟩⟩
  | store => exact ⟨rfl, hclosed, .inl ⟨List.Sublist.refl _, .inl rfl⟩⟩
  | apply inv stored =>
    obtain ⟨hres, hrun⟩ := updateIPs_of_hasIPClient (s := { s with
      invupch := none, currinv := some inv, inventory := some inv }) hip
    obtain ⟨hpromises, hitems⟩ := readjusted_view (readjust_forall₂ cfg s.reservations inv)
    simp_all [applyInventory, updateIPs_reservations, AkashProvider.promises]
  | check items res running => exact absurd rfl (hno res)

end Moves

/-! ## What every step keeps -/

/-- What holds of the service and the operator in every state of a run. -/
@[grind cases]
structure Backed (total : Nat) (w : IPWorld) : Prop where
  available_le : w.svc.ipAddrUsage.available ≤ total
  nodup : ((promises w.svc).map (·.order)).Nodup
  counted : confirmedIPs (promises w.svc) ≤ w.svc.ipAddrUsage.inUse
  held : ∀ p ∈ promises w.svc, p.confirmed = true → p.quantity ≤ w.assigned.count p.order
  closed : w.svc.reservech = true → w.svc.runch = none
  items : ∀ items, w.svc.runch = some items → ItemsOf items (promises w.svc)
  running : w.svc.runch = none → w.progress = none
  reading : ∀ seen todo confirmed, w.progress = some (.reading seen todo confirmed) →
    ItemsOf todo (promises w.svc) ∧ (∀ o, seen.count o ≤ w.assigned.count o) ∧
    ∀ p ∈ promises w.svc, p.confirmed = true ∨ p.order ∈ confirmed → p.quantity ≤ seen.count p.order

theorem Backed.of_idle {total : Nat} {w : IPWorld} (hrun : w.svc.runch = none)
    (hprogress : w.progress = none) (available_le : w.svc.ipAddrUsage.available ≤ total)
    (nodup : ((promises w.svc).map (·.order)).Nodup)
    (counted : confirmedIPs (promises w.svc) ≤ w.svc.ipAddrUsage.inUse)
    (held : ∀ p ∈ promises w.svc, p.confirmed = true → p.quantity ≤ w.assigned.count p.order) :
    Backed total w where
  available_le := available_le
  nodup := nodup
  counted := counted
  held := held
  closed := fun _ => hrun
  items := by simp_all
  running := fun _ => hprogress
  reading := by simp_all

theorem ItemsOf.mono {items : List ConfirmationItem} {ps qs : List Promise} (h : ItemsOf items qs)
    (hsub : ps ⊆ qs) : ItemsOf items ps :=
  fun item hitem p hp => h item hitem p (hsub hp)

section Steps

variable {cfg : ServiceConfig} {total : Nat} {w w' : IPWorld}

theorem Backed.service (hip : cfg.hasIPClient = true) {e : ServiceEvent} {s' : ServiceState}
    (h : Backed total w) (hmove : ServiceMove cfg w.svc e s')
    (hno : ∀ res, e ≠ .checkResult res)
    (hok : CountedInUse w (.service e)) : Backed total { w with svc := s' } := by
  obtain ⟨husage, hclosed, hcase⟩ := hmove.promises hip hno h.closed
  obtain ⟨hsub, hrun⟩ | ⟨order, rg, p, rfl, hidle, hidle', hps, horder, hzero⟩ := hcase
  · have hnodup : ((promises s').map (·.order)).Nodup := (hsub.map _).nodup h.nodup
    refine ⟨husage ▸ h.available_le, hnodup, ?_, fun p hp => h.held p (hsub.subset hp), hclosed,
      fun items hitems => ?_, ?_, fun seen todo confirmed hprogress => ?_⟩
    · rw [husage]
      exact (confirmedIPs_sublist hsub).trans h.counted
    · obtain hrun | hrun := hrun
      · exact (h.items items (hrun ▸ hitems)).mono hsub.subset
      · obtain rfl := Option.some.inj (hrun.symm.trans hitems)
        exact confirmationItems_itemsOf hnodup
    · have hrunning := h.running
      grind
    · obtain ⟨htodo, hseen, hread⟩ := h.reading seen todo confirmed hprogress
      exact ⟨htodo.mono hsub.subset, hseen, fun p hp => hread p (hsub.subset hp)⟩
  · -- no check is in flight when a request is taken
    have hprogress := h.running hidle
    refine ⟨husage ▸ h.available_le, ?_, ?_, ?_, hclosed, ?_, fun _ => hprogress, ?_⟩
    · rw [hps, List.map_append, List.nodup_append]
      refine ⟨h.nodup, List.nodup_singleton _, ?_⟩
      intro o ho o' ho' heq
      obtain ⟨q, hq, rfl⟩ := List.mem_map.mp ho
      obtain ⟨r, hr, rfl⟩ := List.mem_map.mp hq
      rw [List.map_singleton, List.mem_singleton, horder] at ho'
      exact hok r hr (heq.trans ho')
    · rw [hps, confirmedIPs_append, husage]
      have hnew : confirmedIPs [p] = 0 := by grind [confirmedIPs]
      rw [hnew]
      exact h.counted
    · have hheld := h.held
      grind
    all_goals simp_all

theorem Backed.assign (h : Backed total w) (order : OrderID) :
    Backed total { w with assigned := order :: w.assigned } := by
  refine { h with
    held := fun p hp hc => (h.held p hp hc).trans List.count_le_count_cons
    reading := fun seen todo confirmed hprogress => ?_ }
  grind

theorem Backed.readUsage (h : Backed total w) (ok : Bool) {items : List ConfirmationItem}
    (hrun : w.svc.runch = some items) :
    Backed total { w with
      progress := some (if ok then .reading w.assigned items [] else .failed) } := by
  refine { h with running := by grind, reading := fun seen todo confirmed hprogress => ?_ }
  cases ok <;> cases hprogress
  refine ⟨h.items _ hrun, fun o => Nat.le_refl _, ?_⟩
  rintro p hp (hc | hmem)
  · exact h.held p hp hc
  · cases hmem

/-- An order that is confirmed holds its addresses among those the usage read has seen. -/
theorem Backed.readStatus (h : Backed total w) (ok : Bool) {seen confirmed : List OrderID}
    {item : ConfirmationItem} {todo : List ConfirmationItem}
    (hprogress : w.progress = some (.reading seen (item :: todo) confirmed))
    (hok : CountedInUse w (.readStatus ok)) :
    Backed total { w with
      progress := some (.reading seen todo (confirmItem w.assigned confirmed item ok)) } := by
  refine { h with running := by grind, reading := ?_ }
  rintro seen' todo' confirmed' ⟨⟩
  obtain ⟨htodo, hseen, hread⟩ := h.reading _ _ _ hprogress
  obtain ⟨hitem, hrest⟩ := List.forall_mem_cons.mp htodo
  refine ⟨hrest, hseen, fun p hp hcase => ?_⟩
  simp only [confirmItem] at hcase
  split at hcase
  next hfound =>
    obtain hc | hmem := hcase
    · exact hread p hp (.inl hc)
    · rw [List.mem_append, List.mem_singleton] at hmem
      obtain hmem | horder := hmem
      · exact hread p hp (.inr hmem)
      · simp_all [CountedInUse]
  next => exact hread p hp hcase

theorem promises_confirmIPs {p' : Promise} {rs : List Reservation} {confirmed : List OrderID}
    (hp' : p' ∈ (confirmIPs rs confirmed).map (·.promise)) :
    ∃ p ∈ rs.map (·.promise), p'.order = p.order ∧ p'.quantity = p.quantity ∧
      (p'.confirmed = true → p.confirmed = true ∨ p.order ∈ confirmed) := by
  obtain ⟨r', hr', rfl⟩ := List.mem_map.mp hp'
  obtain ⟨r, hr, hc⟩ := (confirmIPs_forall₂ confirmed rs).exists_of_mem hr'
  exact ⟨r.promise, List.mem_map_of_mem hr, hc.kept.order_eq, hc.kept.endpointQuantity_eq,
    hc.of_confirmed⟩

theorem orders_confirmIPs (rs : List Reservation) (confirmed : List OrderID) :
    ((confirmIPs rs confirmed).map (·.promise)).map (·.order) =
      (rs.map (·.promise)).map (·.order) := by
  have h := confirmIPs_forall₂ confirmed rs
  generalize confirmIPs rs confirmed = rs' at h
  induction h with
  | nil => rfl
  | cons hc _ ih =>
    simp only [List.map_cons, ih]
    rw [Reservation.promise, hc.kept.order_eq]
    rfl

theorem Backed.result (h : Backed total w) {pr : CheckProgress} (hpr : w.progress = some pr)
    {res : Option RunCheckResult} (hres : pr.outcome total = some res) :
    Backed total { w with svc := applyCheck w.svc res, progress := none } := by
  cases pr with
  | failed =>
    obtain rfl := Option.some.inj hres
    exact .of_idle rfl rfl h.available_le h.nodup h.counted h.held
  | reading seen todo confirmed =>
    cases todo <;> cases hres
    obtain ⟨-, hseen, hread⟩ := h.reading _ _ _ hpr
    have hnodup : ((promises (applyCheck w.svc (some ⟨⟨total, seen.length⟩, confirmed⟩))).map
        (·.order)).Nodup := by
      rw [promises, applyCheck, orders_confirmIPs]
      exact h.nodup
    have hheld : ∀ p ∈ promises (applyCheck w.svc (some ⟨⟨total, seen.length⟩, confirmed⟩)),
        p.confirmed = true → p.quantity ≤ seen.count p.order := by
      intro p' hp' hc
      obtain ⟨p, hp, horder, hquantity, hof⟩ := promises_confirmIPs hp'
      rw [horder, hquantity]
      exact hread p hp (hof hc)
    exact .of_idle rfl rfl (Nat.le_refl _) hnodup (confirmedIPs_le hnodup hheld)
      fun p hp hc => (hheld p hp hc).trans (hseen _)

theorem ipStep_backed (hip : cfg.hasIPClient = true) {e : IPEvent} (hok : CountedInUse w e)
    (hstep : ipStep cfg total w e = some w') (h : Backed total w) : Backed total w' := by
  cases e with
  | service e =>
    have hno : ∀ res, e ≠ .checkResult res := by
      rintro res rfl
      cases hstep
    have hsvc : (serviceStep cfg w.svc e).map (fun s => { w with svc := s }) = some w' := by
      cases e with
      | checkResult res => exact absurd rfl (hno res)
      | _ => exact hstep
    obtain ⟨s, hs, rfl⟩ := Option.map_eq_some_iff.mp hsvc
    exact h.service hip (serviceStep_move hs) hno hok
  | assign order =>
    simp only [ipStep] at hstep
    split at hstep <;> cases hstep
    exact h.assign order
  | readUsage ok =>
    simp only [ipStep] at hstep
    split at hstep <;> cases hstep
    next items hrun hprogress => exact h.readUsage ok hrun
  | readStatus ok =>
    simp only [ipStep] at hstep
    split at hstep
    · grind [Backed.readStatus]
    · cases hstep
  | result =>
    simp only [ipStep, Option.bind_eq_bind, Option.bind_eq_some_iff] at hstep
    obtain ⟨pr, hpr, res, hres, s, hs, ⟨⟩⟩ := hstep
    cases serviceStep_move hs with
    | check items _ running => exact h.result hpr hres

end Steps

/-! ## Runs -/

theorem promises_startState (cfg : ServiceConfig) (rs : List Reservation) :
    promises (startState cfg rs) = rs.map (·.promise) := by
  refine List.ext_getElem? fun i => ?_
  simp only [promises, startState, List.getElem?_map, List.getElem?_mapIdx, Option.map_map]
  rfl

theorem startIPWorld_backed (cfg : ServiceConfig) (total : Nat) {deployments : List Deployment}
    (hnodup : (deployments.map (·.leaseID.orderID)).Nodup) (assigned : List OrderID) :
    Backed total (startIPWorld cfg deployments assigned) := by
  have hps : promises (startIPWorld cfg deployments assigned).svc =
      (deployments.map recoveredReservation).map (·.promise) := promises_startState cfg _
  have hnone : ∀ p ∈ promises (startIPWorld cfg deployments assigned).svc, p.confirmed = false := by
    intro p hp
    rw [hps] at hp
    simp only [List.map_map, List.mem_map] at hp
    obtain ⟨d, -, rfl⟩ := hp
    rfl
  have hzero : confirmedIPs (promises (startIPWorld cfg deployments assigned).svc) = 0 := by
    refine List.sum_eq_zero fun n hn => ?_
    grind
  refine .of_idle rfl rfl (Nat.zero_le _) ?_ (Nat.le_of_eq hzero) ?_
  · rw [hps, List.map_map, List.map_map]
    exact hnodup
  · grind

/-- As long as the addresses that a check finds were counted by its usage read, the addresses
of all live reservations are there whenever one that needs them is granted. -/
theorem leased_ips_within_total {cfg : ServiceConfig} {total : Nat} (deployments : List Deployment)
    (hnodup : (deployments.map (·.leaseID.orderID)).Nodup) (assigned : List OrderID) {w : IPWorld}
    (hrun : Runs (ipStep cfg total) CountedInUse (startIPWorld cfg deployments assigned) w)
    {order : OrderID} {rg : ResourceGroup} {s' : ServiceState} {r : Reservation}
    (hgrant : handleRequest cfg w.svc order rg = (s', .ok r)) (hneeds : r.endpointQuantity ≠ 0) :
    neededIPs s'.reservations ≤ total := by
  obtain ⟨inv, inv', hips, -, hadj, rfl⟩ := handleRequest_eq_ok hgrant
  have hquantity := (Reservation.adjust_kept hadj).endpointQuantity_eq
  rw [hquantity] at hneeds
  simp only [checkIPs, if_neg hneeds] at hips
  cases hip : cfg.hasIPClient with
  | false => simp [hip] at hips
  | true =>
    have hbacked := hrun.invariant (fun _ _ _ hok hstep h => ipStep_backed hip hok hstep h)
      (startIPWorld_backed cfg total hnodup assigned)
    have hfits : (requested cfg w.svc order rg).endpointQuantity ≤
        availableLeasedIPs w.svc.ipAddrUsage.available w.svc.ipAddrUsage.inUse
          (countReservedIPs w.svc.reservations) := by
      simpa [hip] using hips
    have htotal := le_availableLeasedIPs hneeds hfits
    have hneeded : neededIPs (w.svc.reservations ++ [r]) =
        neededIPs w.svc.reservations + (requested cfg w.svc order rg).endpointQuantity := by
      simp [neededIPs, hquantity]
    have hcounted := hbacked.counted
    have havailable := hbacked.available_le
    -- confirmed promises are within the addresses in use, the others are reserved
    rw [hneeded, neededIPs_eq]
    omega

/-- A group of one replica that needs two addresses, or one. -/
def ipGroup (two : Bool) : ResourceGroup :=
  plainGroup { plainRequest 100 16 ⟨0, []⟩ with
    endpoints := if two then [⟨.leasedIP, 1⟩, ⟨.leasedIP, 2⟩] else [⟨.leasedIP, 1⟩] } 1

def ipInventory : Inventory := newInventory ⟨[freeNode "node" 1000 64 0 []], []⟩

/-- The service when it knows of two addresses, none of them in use. -/
def servingIPs : ServiceState :=
  applyCheck (applyInventory (plainConfig true)
    { startState (plainConfig true) [] with invupch := some ipInventory } ipInventory)
    (some ⟨⟨2, 0⟩, []⟩)

/-- The service when a first order was granted one address, and when it was deployed and a
check is in flight. -/
def grantedIP : ServiceState :=
  (handleRequest (plainConfig true) servingIPs (orderNo 1) (ipGroup false)).1

def deployedIP : ServiceState :=
  updateIPs (plainConfig true) (markDeployment grantedIP (leaseNo 1) "group" .deployed)

theorem runs_deployedIP : Runs (ipStep (plainConfig true) 2) CountedInUse
    (startIPWorld (plainConfig true) [] []) ⟨deployedIP, [], none⟩ := by
  have hstart : Runs (ipStep (plainConfig true) 2) CountedInUse
    (startIPWorld (plainConfig true) [] []) _ := .refl _
  have hstored := hstart.next (.service (.inventoryUpdate (some ipInventory))) trivial rfl
  have happlied := hstored.next (.service .applyInventory) trivial rfl
  have hread := happlied.next (.readUsage true) trivial rfl
  have hserving : Runs _ _ _ (IPWorld.mk servingIPs [] none) := hread.next .result trivial rfl
  have hgranted : Runs _ _ _ (IPWorld.mk grantedIP [] none) :=
    hserving.next (.service (.reserve (orderNo 1) (ipGroup false))) (by
      intro r hr
      cases hr) rfl
  exact hgranted.next (.service (.clusterDeployment (leaseNo 1) "group" .deployed)) trivial rfl

/-- The service after the check has found the address of the first order, for the number of
addresses in use that its usage read has seen. -/
def confirmedIP (inUse : Nat) : ServiceState :=
  applyCheck deployedIP (some ⟨⟨2, inUse⟩, [orderNo 1]⟩)

/-- The operator assigns the address before the check: a second order gets the other one. -/
theorem leased_ips_within_total_second :
    ∃ s' r, Runs (ipStep (plainConfig true) 2) CountedInUse (startIPWorld (plainConfig true) [] [])
        ⟨confirmedIP 1, [orderNo 1], none⟩ ∧
      handleRequest (plainConfig true) (confirmedIP 1) (orderNo 2) (ipGroup false) = (s', .ok r) ∧
      r.endpointQuantity = 1 ∧ neededIPs s'.reservations ≤ 2 := by
  have hassign : Runs _ _ _ (IPWorld.mk deployedIP [orderNo 1] none) :=
    runs_deployedIP.next (.assign (orderNo 1)) trivial rfl
  have husage : Runs _ _ _ (IPWorld.mk deployedIP [orderNo 1]
      (some (.reading [orderNo 1] [⟨orderNo 1, 1⟩] []))) :=
    hassign.next (.readUsage true) trivial rfl
  have hstatus : Runs _ _ _ (IPWorld.mk deployedIP [orderNo 1]
      (some (.reading [orderNo 1] [] [orderNo 1]))) :=
    husage.next (.readStatus true) (fun _ => rfl) rfl
  have hrun : Runs _ _ _ (IPWorld.mk (confirmedIP 1) [orderNo 1] none) :=
    hstatus.next .result trivial rfl
  have hgrant : handleRequest (plainConfig true) (confirmedIP 1) (orderNo 2) (ipGroup false) =
    (_, .ok _) := rfl
  exact ⟨_, _, hrun, hgrant, rfl,
    leased_ips_within_total [] List.nodup_nil [] hrun hgrant (by decide)⟩

/-- The address is assigned between the two reads of the check.  It is confirmed and not counted,
and a second order is promised both. -/
theorem leased_ips_over_promised :
    ∃ s' r, Runs (ipStep (plainConfig true) 2) (fun _ _ => True)
        (startIPWorld (plainConfig true) [] []) ⟨confirmedIP 0, [orderNo 1], none⟩ ∧
      (confirmedIP 0).reservech = true ∧
      handleRequest (plainConfig true) (confirmedIP 0) (orderNo 2) (ipGroup true) = (s', .ok r) ∧
      r.endpointQuantity = 2 ∧ 2 < neededIPs s'.reservations := by
  have hstart : Runs (ipStep (plainConfig true) 2) (fun _ _ => True) _ _ :=
    runs_deployedIP.mono fun _ _ _ => trivial
  exact ⟨_, _, hstart.trans (Runs.of_foldlM
    [.readUsage true, .assign (orderNo 1), .readStatus true, .result] _ _ rfl),
    rfl, rfl, rfl, by decide⟩

end AkashProvider
