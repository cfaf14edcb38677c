import AkashProvider.Hostname.Holding
import AkashProvider.Hostname.Passes

/-!
# Blocked hostnames

A provider blocks hostnames, and with a dot in front whole domains.  Requests are in lower case
when they are looked up, entries are kept as written (`blocked_whatever_case`): one in lower case
blocks all spellings (`BlockedBy.standsFor`), one with a capital letter blocks none.
-/

namespace AkashProvider

variable {S : HostnameSdk}

/-! ## Entries -/

/-- The hostname is, up to case, the name of the entry, its domain, or below its domain. -/
inductive BlockedBy (S : HostnameSdk) (hostname : String) : String → Prop
  | name {entry : String} (h : S.toLower hostname = S.toLower entry) : BlockedBy S hostname entry
  | domain {domain : String} (h : S.toLower hostname = S.toLower domain) :
      BlockedBy S hostname ("." ++ domain)
  | below {domain : String} (label : String)
      (h : S.toLower hostname = S.toLower (label ++ "." ++ domain)) :
      BlockedBy S hostname ("." ++ domain)

/-- The same for the entry as it is written. -/
inductive StandsFor (hostname : String) : String → Prop
  | name : StandsFor hostname hostname
  | domain : StandsFor hostname ("." ++ hostname)
  | below {domain : String} (h : ("." ++ domain).toList <:+ hostname.toList) :
      StandsFor hostname ("." ++ domain)

theorem toList_domain (domain : String) : ("." ++ domain).toList = '.' :: domain.toList := by
  rw [String.toList_append]
  rfl

theorem standsFor_domain_iff {domain hostname : String} : StandsFor hostname ("." ++ domain) ↔
    hostname = domain ∨ ("." ++ domain).toList <:+ hostname.toList := by
  constructor
  · generalize hentry : "." ++ domain = entry
    intro h
    cases h with
    | name => exact .inr (List.suffix_refl _)
    | domain =>
      have hlist := congrArg String.toList hentry
      rw [toList_domain, toList_domain, List.cons.injEq] at hlist
      exact .inl (String.toList_inj.mp hlist.2).symm
    | below h => exact .inr h
  · rintro (rfl | h)
    · exact .domain
    · exact .below h

theorem blockedNames_domain (domain : String) (entries : List String) :
    blockedNames (("." ++ domain) :: entries) =
      (domain :: (blockedNames entries).1, ("." ++ domain) :: (blockedNames entries).2) := by
  simp [blockedNames, hostnameSeparator]

theorem blockedNames_name {name : String} (hname : ∀ domain, name ≠ "." ++ domain)
    (entries : List String) : blockedNames (name :: entries) =
      (name :: (blockedNames entries).1, (blockedNames entries).2) := by
  simp only [blockedNames]
  split
  · rfl
  · next c rest hlist =>
    refine if_neg fun hc => hname (String.ofList rest) (String.toList_inj.mp ?_)
    rw [hlist, toList_domain, String.toList_ofList, hc]
    rfl

/-- A hostname is looked up among the names and the domains, that is, among the entries. -/
theorem blockedNames_iff {hostname : String} (entries : List String) :
    (hostname ∈ (blockedNames entries).1 ∨
      ∃ d ∈ (blockedNames entries).2, d.toList <:+ hostname.toList) ↔
      ∃ entry ∈ entries, StandsFor hostname entry := by
  induction entries with
  | nil => simp [blockedNames]
  | cons entry entries ih =>
    rw [List.exists_mem_cons_iff, ← ih]
    by_cases hdomain : ∃ domain, entry = "." ++ domain
    · obtain ⟨domain, rfl⟩ := hdomain
      rw [blockedNames_domain, standsFor_domain_iff]
      simp only [List.mem_cons, exists_eq_or_imp]
      tauto
    · have hname : ∀ domain, entry ≠ "." ++ domain := not_exists.mp hdomain
      have hstands : StandsFor hostname entry ↔ hostname = entry := by
        constructor
        · rintro (_ | _ | _)
          · rfl
          · exact absurd rfl (hname _)
          · exact absurd rfl (hname _)
        · rintro rfl
          exact .name
      rw [blockedNames_name hname, hstands, List.mem_cons, or_assoc]

namespace HostnameService

variable {hs : HostnameService} {entries : List String} {hostname : String}

theorem isHostnameBlocked_eq_ok_iff : hs.isHostnameBlocked hostname = .ok () ↔
    ¬ (hostname ∈ hs.blockedHostnames ∨
      ∃ d ∈ hs.blockedDomains, d.toList <:+ hostname.toList) := by
  unfold isHostnameBlocked
  by_cases hname : hostname ∈ hs.blockedHostnames
  · simp [hname]
  · simp [hname]

structure BlocksBy (hs : HostnameService) (entries : List String) : Prop where
  names : hs.blockedHostnames = (blockedNames entries).1
  domains : hs.blockedDomains = (blockedNames entries).2

theorem BlocksBy.isHostnameBlocked_eq_ok_iff (h : hs.BlocksBy entries) :
    hs.isHostnameBlocked hostname = .ok () ↔ ¬ ∃ entry ∈ entries, StandsFor hostname entry := by
  rw [HostnameService.isHostnameBlocked_eq_ok_iff, h.names, h.domains, blockedNames_iff]

theorem blocksBy_new {initialData : List (String × LeaseID)}
    (hnew : newHostnameService S entries initialData = .ok hs) : hs.BlocksBy entries := by
  obtain ⟨inUse, -, h⟩ := Except.exists_of_bind_eq_ok hnew
  injection h with h
  subst h
  exact ⟨rfl, rfl⟩

theorem BlocksBy.serve (h : hs.BlocksBy entries) (r : HostnameRequest) :
    (hs.serve S r).BlocksBy entries := by
  obtain ⟨store', -, hserve⟩ := exists_served S hs r
  rw [hserve]
  exact ⟨h.names, h.domains⟩

/-- No list with the hostname is reserved, nor can be, for any lease and any owner. -/
structure Refuses (S : HostnameSdk) (hs : HostnameService) (hostname : String) : Prop where
  reserve : ∀ hostnames, hostname ∈ hostnames → ∀ l,
    ∃ err, hs.reserveHostnames S hostnames l = .error err
  canReserve : ∀ hostnames, hostname ∈ hostnames → ∀ ownerAddr,
    ∃ err, hs.canReserveHostnames S hostnames ownerAddr = .error err

theorem refuses_of_blocked (h : hs.isHostnameBlocked (S.toLower hostname) ≠ .ok ()) :
    hs.Refuses S hostname := by
  have hcheck : ∀ hostnames : List String, hostname ∈ hostnames →
      ∃ err, hs.checkBlocked (hostnames.map S.toLower) = .error err := by
    intro hostnames hmem
    cases hcheck : hs.checkBlocked (hostnames.map S.toLower) with
    | error err => exact ⟨err, rfl⟩
    | ok u => exact absurd (checkBlocked_eq_ok_iff.mp hcheck _ (List.mem_map_of_mem hmem)) h
  constructor
  · intro hostnames hmem l
    obtain ⟨err, herr⟩ := hcheck hostnames hmem
    exact ⟨err, by rw [reserveHostnames, herr]; rfl⟩
  · intro hostnames hmem ownerAddr
    obtain ⟨err, herr⟩ := hcheck hostnames hmem
    exact ⟨err, by rw [canReserveHostnames, herr]; rfl⟩

/-- The owner that holds a hostname, if any does, can reserve it unless it is blocked. -/
theorem exists_canReserve (h : hs.isHostnameBlocked (S.toLower hostname) = .ok ()) :
    ∃ ownerAddr, hs.canReserveHostnames S [hostname] ownerAddr = .ok () := by
  have hcheck : hs.checkBlocked ([hostname].map S.toLower) = .ok () :=
    checkBlocked_eq_ok_iff.mpr (by simpa using h)
  have hheld : ∃ ownerAddr, HeldByOwner hs.inUse ownerAddr ([hostname].map S.toLower) := by
    cases hholder : hs.inUse (S.toLower hostname) with
    | none => exact ⟨"", by simp [HeldByOwner, hholder]⟩
    | some hID => exact ⟨hID.owner, by simp [HeldByOwner, hholder]⟩
  obtain ⟨ownerAddr, hheld⟩ := hheld
  refine ⟨ownerAddr, ?_⟩
  rw [canReserveHostnames, hcheck]
  exact canReserveHostnamesImpl_eq_ok_iff.mpr hheld

theorem refuses_iff :
    hs.Refuses S hostname ↔ hs.isHostnameBlocked (S.toLower hostname) ≠ .ok () := by
  refine ⟨fun hrefuses hok => ?_, refuses_of_blocked⟩
  obtain ⟨ownerAddr, hcan⟩ := exists_canReserve hok
  obtain ⟨err, herr⟩ := hrefuses.canReserve [hostname] List.mem_cons_self ownerAddr
  rw [hcan] at herr
  cases herr

end HostnameService

/-- In every state of the service, a hostname is refused exactly if an entry as it is written stands
for the hostname in lower case. -/
theorem blocked_whatever_case {entries : List String} {initialData : List (String × LeaseID)}
    {svc : HostnameService} (hnew : newHostnameService S entries initialData = .ok svc)
    {w : HostnameWorld}
    (hrun : Runs (hostnameStep S) (fun _ _ => True) ⟨svc, initialData.map Prod.swap⟩ w)
    (hostname : String) :
    w.svc.Refuses S hostname ↔ ∃ entry ∈ entries, StandsFor (S.toLower hostname) entry := by
  have hblocks : w.svc.BlocksBy entries := by
    refine Runs.invariant (I := fun w => w.svc.BlocksBy entries) ?_ hrun
      (HostnameService.blocksBy_new hnew)
    intro w r w' _ hstep h
    injection hstep with hstep
    subst hstep
    exact h.serve r
  rw [HostnameService.refuses_iff, Ne, hblocks.isHostnameBlocked_eq_ok_iff, not_not]

/-- `strings.ToLower` goes letter by letter and leaves the dot alone. -/
def HostnameSdk.LettersLowered (S : HostnameSdk) : Prop :=
  ∃ lower : Char → Char, lower hostnameSeparator = hostnameSeparator ∧
    ∀ s, (S.toLower s).toList = s.toList.map lower

/-- An entry in lower case stands for every spelling of what it blocks. -/
theorem BlockedBy.standsFor (hS : S.LettersLowered) {hostname entry : String}
    (hlower : S.toLower entry = entry) (h : BlockedBy S hostname entry) :
    StandsFor (S.toLower hostname) entry := by
  obtain ⟨lower, hdot, hletters⟩ := hS
  cases h with
  | name heq =>
    rw [heq, hlower]
    exact .name
  | @domain domain heq =>
    have hlist := congrArg String.toList hlower
    rw [hletters, toList_domain, List.map_cons, List.cons.injEq, ← hletters] at hlist
    rw [heq, String.toList_inj.mp hlist.2]
    exact .domain
  | @below domain label heq =>
    refine .below ?_
    rw [heq, hletters, String.append_assoc, String.toList_append (s := label), List.map_append,
      ← hletters ("." ++ domain), hlower]
    exact List.suffix_append _ _

/-- The reference implementation, with text lowered as a list of letters. -/
def HostnameSdk.byLetters : HostnameSdk :=
  { HostnameSdk.reference with toLower := fun s => String.ofList (s.toList.map Char.toLower) }

theorem HostnameSdk.byLetters_lettersLowered : HostnameSdk.byLetters.LettersLowered :=
  ⟨Char.toLower, by decide, fun _ => String.toList_ofList⟩

/-- A service that holds nothing yet. -/
def blockingService (entries : List String) : HostnameService :=
  ⟨fun _ => none, (blockedNames entries).1, (blockedNames entries).2⟩

theorem newHostnameService_blocking (entries : List String) :
    newHostnameService .byLetters entries [] = .ok (blockingService entries) := rfl

/-- Entries in lower case block a name, a domain and a name below the domain in capitals, also when
there is another entry with a capital letter. -/
theorem blocked_whatever_case_lower :
    let svc := blockingService ["Shop.com", "shop.com", "." ++ "akash.network"]
    svc.Refuses .byLetters "SHOP.com" ∧ svc.Refuses .byLetters "Akash.Network" ∧
      svc.Refuses .byLetters "API.Akash.Network" ∧ ¬ svc.Refuses .byLetters "free.com" := by
  intro svc
  have hnew := newHostnameService_blocking ["Shop.com", "shop.com", "." ++ "akash.network"]
  have hrun : Runs (hostnameStep .byLetters) (fun _ _ => True)
      ⟨svc, ([] : List (String × LeaseID)).map Prod.swap⟩ ⟨svc, []⟩ := Runs.refl _
  have hlower := HostnameSdk.byLetters_lettersLowered
  refine ⟨?_, ?_, ?_, ?_⟩
  · refine (blocked_whatever_case hnew hrun _).mpr ⟨"shop.com", by simp, ?_⟩
    exact BlockedBy.standsFor hlower (by decide +kernel) (.name (by decide +kernel))
  · refine (blocked_whatever_case hnew hrun _).mpr ⟨"." ++ "akash.network", by simp, ?_⟩
    exact BlockedBy.standsFor hlower (by decide +kernel) (.domain (by decide +kernel))
  · refine (blocked_whatever_case hnew hrun _).mpr ⟨"." ++ "akash.network", by simp, ?_⟩
    exact BlockedBy.standsFor hlower (by decide +kernel) (.below "api" (by decide +kernel))
  · intro hrefuses
    obtain ⟨err, herr⟩ := hrefuses.canReserve ["free.com"] List.mem_cons_self "owner"
    have hcan : svc.canReserveHostnames .byLetters ["free.com"] "owner" = .ok () := by
      decide +kernel
    rw [hcan] at herr
    cases herr

/-- An entry with a capital letter blocks no spelling, and a domain with one lets every name below
it through. -/
theorem capital_entry_blocks_nothing :
    let svc := blockingService ["Shop.com", "." ++ "Akash.Network"]
    newHostnameService .byLetters ["Shop.com", "." ++ "Akash.Network"] [] = .ok svc ∧
      BlockedBy .byLetters "Shop.com" "Shop.com" ∧
      BlockedBy .byLetters "api.akash.network" ("." ++ "Akash.Network") ∧
      (svc.reserveHostnames .byLetters ["Shop.com", "shop.com", "api.akash.network"]
        (groupLease 1)).toOption.map (·.2) = some [] ∧
      svc.canReserveHostnames .byLetters ["Shop.com", "api.akash.network"] "owner" = .ok () :=
  ⟨newHostnameService_blocking _, .name rfl, .below "api" (by decide +kernel),
    by decide +kernel, by decide +kernel⟩

end AkashProvider
