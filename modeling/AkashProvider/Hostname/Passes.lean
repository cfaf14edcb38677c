import AkashProvider.Hostname.Service

/-!
# The passes of a reservation

`reserveHostnamesImpl` goes over the map three times: it checks the names, collects what the group
no longer requests, and writes.  `reservePasses` follows the passes in any order of the map.  What
comes out is what `Hostname.Service` says at once (`reservePasses_eq`,
`reservation_postcondition`).
-/

namespace AkashProvider

/-! ## The passes -/

structure ReserveVars where
  requested : List String
  withheld : List String

/-- The first pass over the requested names stops at one that another owner holds. -/
def checkPass (store : HostnameMap) (hID : HostnameID) :
    List String → ReserveVars → Except HostnameErr ReserveVars
  | [], vars => .ok vars
  | hostname :: hostnames, vars =>
    let vars := { vars with requested := vars.requested ++ [hostname] }
    match store hostname with
    | none => checkPass store hID hostnames vars
    | some existingID =>
      if existingID.owner ≠ hID.owner then .error (.inUse hostname)
      else if existingID ≠ hID then
        checkPass store hID hostnames { vars with withheld := vars.withheld ++ [hostname] }
      else checkPass store hID hostnames vars

/-- The names to mark as in use, one after another. -/
def markPass (hID : HostnameID) (withheld : List String) :
    List String → HostnameMap → HostnameMap
  | [], store => store
  | hostname :: hostnames, store =>
    markPass hID withheld hostnames
      (if hostname ∈ withheld then store else Function.update store hostname (some hID))

def deletePass : List String → HostnameMap → HostnameMap
  | [], store => store
  | hostname :: hostnames, store => deletePass hostnames (Function.update store hostname none)

/-- `reserveHostnamesImpl` with the map it writes to.  The map is gone through in the order
`names`. -/
def reservePasses (names : List String) (store : HostnameMap) (hostnames : List String)
    (hID : HostnameID) : HostnameMap × Except HostnameErr (List String) :=
  match checkPass store hID hostnames ⟨[], []⟩ with
  | .error err => (store, .error err)
  | .ok vars =>
    let removeHostnames := names.filter fun h => h ∉ vars.requested ∧ store h = some hID
    let store := markPass hID vars.withheld hostnames store
    (deletePass removeHostnames store, .ok vars.withheld)

/-- `canReserveHostnamesImpl` with the map it is given. -/
def canReservePass (ownerAddr : String) :
    List String → HostnameMap → HostnameMap × Except HostnameErr Unit
  | [], store => (store, .ok ())
  | hostname :: hostnames, store =>
    match store hostname with
    | none => canReservePass ownerAddr hostnames store
    | some existingID =>
      if existingID.owner ≠ ownerAddr then (store, .error (.inUse hostname))
      else canReservePass ownerAddr hostnames store

/-- The names that the map has, in some order. -/
def NamesOf (store : HostnameMap) (names : List String) : Prop :=
  ∀ h, h ∈ names ↔ (store h).isSome

/-! ## What the passes come to -/

variable {hID : HostnameID} {hostnames : List String} {store : HostnameMap}

theorem checkPass_eq :
    ∀ vars : ReserveVars, checkPass store hID hostnames vars =
      (heldNames store hID.owner (· ≠ hID) hostnames).map fun names =>
        ⟨vars.requested ++ hostnames, vars.withheld ++ names⟩ := by
  induction hostnames with
  | nil => simp [checkPass, heldNames, Except.map]
  | cons h hostnames ih =>
    intro vars
    cases hstore : store h with
    | none => simp only [checkPass, heldNames, hstore, ih, List.append_assoc, List.singleton_append]
    | some e =>
      by_cases howner : e.owner = hID.owner
      · simp only [checkPass, heldNames, hstore, howner, ne_eq, not_true_eq_false, if_false, ih,
          List.append_assoc, List.singleton_append]
        cases heldNames store hID.owner (fun x => decide ¬ x = hID) hostnames <;>
          by_cases hsame : e = hID <;> simp [Except.map, hsame]
      · simp [checkPass, heldNames, hstore, howner, Except.map]

theorem markPass_apply {withheld : List String} (h : String) (hostnames : List String) :
    ∀ store : HostnameMap,
      markPass hID withheld hostnames store h =
        if h ∈ hostnames ∧ h ∉ withheld then some hID else store h := by
  induction hostnames with
  | nil => simp [markPass]
  | cons k hostnames ih =>
    intro store
    rw [markPass, ih]
    by_cases hk : h = k
    · grind
    · by_cases hwith : k ∈ withheld <;> simp [hwith, hk]

theorem deletePass_apply (h : String) (hostnames : List String) : ∀ store : HostnameMap,
    deletePass hostnames store h = if h ∈ hostnames then none else store h := by
  induction hostnames with
  | nil => simp [deletePass]
  | cons k hostnames ih =>
    intro store
    rw [deletePass, ih]
    by_cases hk : h = k
    · subst hk
      simp
    · simp [hk]

theorem reservePasses_eq {names : List String} (hnames : NamesOf store names)
    (hostnames : List String) (hID : HostnameID) :
    reservePasses names store hostnames hID =
      match reserveHostnamesImpl store hostnames hID with
      | .error err => (store, .error err)
      | .ok (store', withheld) => (store', .ok withheld) := by
  unfold reservePasses
  rw [checkPass_eq]
  cases hheld : heldNames store hID.owner (· ≠ hID) hostnames with
  | error err =>
    simp only [reserveHostnamesImpl, hheld]
    rfl
  | ok withheld =>
    simp only [reserveHostnamesImpl, hheld, Except.map, bind, Except.bind, List.nil_append]
    refine Prod.ext (funext fun h => ?_) rfl
    dsimp only
    rw [deletePass_apply, markPass_apply, Registry.remove_apply, Registry.assign_apply]
    have hremoved : h ∈ names ∧ h ∉ hostnames ∧ store h = some hID ↔
        h ∉ hostnames ∧ store h = some hID := by
      rw [hnames]
      simp_all
    simp [hremoved]

theorem canReservePass_eq (store : HostnameMap) (ownerAddr : String) (hostnames : List String) :
    canReservePass ownerAddr hostnames store =
      (store, canReserveHostnamesImpl store hostnames ownerAddr) := by
  induction hostnames with
  | nil => rfl
  | cons h hostnames ih =>
    cases hstore : store h with
    | none => simp only [canReservePass, hstore, ih, canReserveHostnamesImpl, heldNames]
    | some e =>
      by_cases howner : e.owner = ownerAddr
      · simp only [canReservePass, hstore, howner, ih, canReserveHostnamesImpl, heldNames,
          ne_eq, not_true_eq_false, if_false]
        cases heldNames store ownerAddr (fun _ => false) hostnames <;> rfl
      · simp only [canReservePass, hstore, howner, canReserveHostnamesImpl, heldNames,
          ne_eq, not_false_eq_true, if_true]
        rfl

theorem canReserveHostnamesImpl_eq_ok_iff {ownerAddr : String} :
    canReserveHostnamesImpl store hostnames ownerAddr = .ok () ↔
      HeldByOwner store ownerAddr hostnames := by
  constructor
  · intro h
    obtain ⟨names, hnames, -⟩ := Except.exists_of_bind_eq_ok h
    exact (heldNames_eq_ok_iff.mp hnames).1
  · intro hheld
    simp only [canReserveHostnamesImpl, heldNames_eq_ok_iff.mpr ⟨hheld, rfl⟩]
    rfl

/-- A reservation that fails writes nothing, and fails if another owner holds a requested
name.  After one that succeeds, the requested names are the group's, apart from those of another
group of the owner, which are withheld; its other names are free, and nothing else has changed. -/
theorem reservation_postcondition {store : HostnameMap} {names : List String}
    (hnames : NamesOf store names) (hostnames : List String) (hID : HostnameID) :
    let after := reservePasses names store hostnames hID
    ((∃ err, after.2 = .error err) ↔ ∃ h ∈ hostnames, ∃ e, store h = some e ∧ e.owner ≠ hID.owner) ∧
    (∀ err, after.2 = .error err → after.1 = store) ∧
    (∀ withheld, after.2 = .ok withheld →
      withheld = hostnames.filter (fun h => (store h).any fun e => e.owner = hID.owner ∧ e ≠ hID) ∧
      (∀ h ∈ hostnames, h ∉ withheld → after.1 h = some hID) ∧
      (∀ h ∈ withheld, after.1 h = store h) ∧
      (∀ h, h ∉ hostnames → store h = some hID → after.1 h = none) ∧
      ∀ h, h ∉ hostnames → store h ≠ some hID → after.1 h = store h) ∧
    ((canReservePass hID.owner hostnames store).2 = .ok () ↔ ¬ ∃ err, after.2 = .error err) ∧
    (canReservePass hID.owner hostnames store).1 = store := by
  have hother : HeldByOwner store hID.owner hostnames ↔
      ¬ ∃ h ∈ hostnames, ∃ e, store h = some e ∧ e.owner ≠ hID.owner := by
    simp [HeldByOwner]
  intro after
  have hafter : after = _ := reservePasses_eq hnames hostnames hID
  rw [canReservePass_eq, canReserveHostnamesImpl_eq_ok_iff]
  cases hres : reserveHostnamesImpl store hostnames hID with
  | error err =>
    have hheld : ¬ HeldByOwner store hID.owner hostnames := by
      intro hheld
      have hok := reserveHostnamesImpl_eq_ok_iff.mpr ⟨hheld, rfl, rfl⟩
      rw [hres] at hok
      cases hok
    grind
  | ok out =>
    obtain ⟨store', withheld⟩ := out
    rw [hres] at hafter
    obtain ⟨hheld, hwithheld, -⟩ := reserveHostnamesImpl_eq_ok_iff.mp hres
    have hsucceeds : ¬ ∃ err, after.2 = .error err := by simp_all
    refine ⟨iff_of_false hsucceeds (hother.mp hheld),
      fun err herr => absurd ⟨err, herr⟩ hsucceeds, ?_, iff_of_true hheld hsucceeds, rfl⟩
    intro withheld' hok
    rw [hafter] at hok ⊢
    obtain rfl := Except.ok.inj hok
    have happly := reserveHostnamesImpl_apply hres
    refine ⟨?_, ?_, ?_, ?_, ?_⟩
    · rw [hwithheld]
      refine List.filter_congr fun h hh => ?_
      cases hstore : store h with
      | none => rfl
      | some e => simp [hheld h hh e hstore]
    · simp_all
    · grind [mem_withheldOf]
    · simp_all
    · simp_all

/-- A name of its own, a name of another group, and a name that the group drops; the list has a
name twice. -/
theorem reservation_postcondition_mixed :
    let store : HostnameMap := Registry.assign (Registry.assign (fun _ => none)
      ⟨"owner", 1, 1⟩ ["a.com", "old.com"]) ⟨"owner", 2, 1⟩ ["b.com"]
    let after := reservePasses ["b.com", "old.com", "a.com"] store
      ["a.com", "b.com", "c.com", "b.com"] ⟨"owner", 1, 1⟩
    NamesOf store ["b.com", "old.com", "a.com"] ∧ after.2 = .ok ["b.com", "b.com"] ∧
      after.1 "c.com" = some ⟨"owner", 1, 1⟩ ∧ after.1 "b.com" = some ⟨"owner", 2, 1⟩ ∧
      after.1 "old.com" = none := by
  intro store after
  have hnames : NamesOf store ["b.com", "old.com", "a.com"] := by
    intro h
    simp only [store, Registry.assign_apply, List.mem_cons, List.not_mem_nil, or_false]
    grind
  have hok : after.2 = .ok ["b.com", "b.com"] := by decide +kernel
  obtain ⟨-, -, hpost, -, -⟩ := reservation_postcondition hnames
    ["a.com", "b.com", "c.com", "b.com"] ⟨"owner", 1, 1⟩
  obtain ⟨-, hmarked, hkept, hdropped, -⟩ := hpost _ hok
  refine ⟨hnames, hok, hmarked "c.com" (by decide) (by decide), ?_, ?_⟩
  · rw [hkept "b.com" (by decide)]
    decide
  · exact hdropped "old.com" (by decide) (by decide)

end AkashProvider
