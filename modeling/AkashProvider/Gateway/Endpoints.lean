import AkashProvider.Gateway.Routes

/-!
# Moving the IPs of endpoints

To move an endpoint to another lease of the owner is to declare its IP again under the same name.
`migrateEndpointHandler` looks names up in the endpoints of the destination and not in those asked
for, so it declares every IP of the destination again (`endpoint_not_asked_moved`).
-/

namespace AkashProvider.Gateway

variable {κ : Type} {C : ClusterClient} {K : HandlerSdk} {S : ManifestSdk}

/-! ## One request -/

section

variable (C K)

/-- A request gets as far as to declare IPs: its body asks for some endpoints, and there is a lease
with a manifest at the destination that has them all and whose protocols are known. -/
structure EndpointMigration (req : Request) (owner : String) (body : EndpointMigrateRequestBody)
    (lid : LeaseID) (mgroup : Crd.ManifestGroup) : Prop where
  decode : K.decodeEndpointMigrate req.body = some body
  asked : body.endpointsToMigrate ≠ []
  found : C.findActiveLease owner body.destinationDSeq body.destinationGSeq =
    .ok (some (lid, mgroup))
  protos : ∀ v ∈ (exposesOf mgroup).filter AtIP, (K.parseServiceProtocol v.2.proto).isSome
  known : ∀ endpoint ∈ body.endpointsToMigrate,
    endpoint ∈ ((exposesOf mgroup).filter AtIP).map (·.2.ip)

end

/-- The call declares the IP of an expose for a lease. -/
def Call.Redeclares (K : HandlerSdk) (c : Call) (lid : LeaseID)
    (v : String × Crd.ManifestServiceExpose) : Prop :=
  ∃ proto, K.parseServiceProtocol v.2.proto = some proto ∧ c = redeclareIP K lid ⟨v.2, v.1, proto⟩

def Call.IsDeclareIP : Call → Prop
  | .declareIP _ _ _ _ _ _ _ => True
  | _ => False

theorem collectEndpoint_protos (vs : List (String × Crd.ManifestServiceExpose)) :
    ∀ {s s' : List String × List ServiceExposeWithName},
      vs.foldlM (collectEndpoint K) s = .ok s' →
      (∀ e ∈ s.2, K.parseServiceProtocol e.expose.proto = some e.proto) →
      ∀ e ∈ s'.2, K.parseServiceProtocol e.expose.proto = some e.proto := by
  induction vs with
  | nil =>
    intro s s' h hs
    cases h
    exact hs
  | cons v vs ih =>
    intro s s' h hs
    obtain ⟨t, ht, h⟩ := Except.bind_eq_ok_iff.mp h
    refine ih h fun e he => ?_
    by_cases hv : AtIP v
    · rw [collectEndpoint_of_atIP hv] at ht
      split at ht
      · cases ht
      · next proto hproto =>
        cases ht
        obtain he | he := List.mem_append.mp he
        · exact hs e he
        · rw [List.mem_singleton.mp he]
          exact hproto
    · rw [collectEndpoint_of_not_atIP hv] at ht
      cases ht
      exact hs e he

theorem migrateEndpointHandler_declares (req : Request) (ctx : Context κ) :
    (migrateEndpointHandler C K req ctx).Calls fun c => c.IsDeclareIP →
      ∃ owner body lid mgroup, ctx.owner = some owner ∧
        EndpointMigration C K req owner body lid mgroup ∧
        ∃ v ∈ (exposesOf mgroup).filter AtIP, c.Redeclares K lid v := by
  refine Logged.calls_bind (Logged.calls_lift _) fun body hbody => ?_
  refine Logged.calls_bind (Logged.calls_require _ _) fun _ hsome => ?_
  refine Logged.calls_bind (Logged.calls_lift _) fun owner howner => ?_
  refine Logged.calls_bind (Logged.calls_call False.elim _) fun found hfound => ?_
  cases found with
  | none => exact Logged.calls_pure _
  | some found =>
    obtain ⟨lid, mgroup⟩ := found
    refine Logged.calls_bind (Logged.calls_lift _) fun collected hcollected => ?_
    obtain ⟨hparse, hknown, hentries⟩ := collectEndpoint_foldlM (exposesOf mgroup) hcollected
    refine Logged.calls_bind (Logged.calls_lift _) fun _ hendpoints => ?_
    have hmem := checkKnown_eq_ok_iff.mp hendpoints
    rw [hknown] at hmem
    have hmigration : EndpointMigration C K req owner body lid mgroup :=
      ⟨decoded_eq_ok_iff.mp hbody, Logged.result_require.mp hsome,
        Except.mapError_eq_ok_iff.mp hfound, hparse, hmem⟩
    refine Logged.calls_bind (Logged.calls_each fun entry hentry => ?_)
      fun _ _ => Logged.calls_pure _
    refine Logged.calls_call (fun _ => ?_) _
    refine ⟨owner, body, lid, mgroup, orPanic_eq_ok_iff.mp howner, hmigration,
      (entry.serviceName, entry.expose), ?_, entry.proto,
      collectEndpoint_protos _ hcollected nofun entry hentry, rfl⟩
    rw [List.map_nil, List.nil_append] at hentries
    exact hentries ▸ List.mem_map_of_mem hentry

variable {v : String × Crd.ManifestServiceExpose} {lid : LeaseID}

theorem migrateEndpointHandler_declares_all {req : Request} {ctx : Context κ} {owner : String}
    {body : EndpointMigrateRequestBody} {mgroup : Crd.ManifestGroup}
    (howner : ctx.owner = some owner) (hmigration : EndpointMigration C K req owner body lid mgroup)
    (hv : v ∈ (exposesOf mgroup).filter AtIP) :
    ∃ c ∈ (migrateEndpointHandler { C with declareIP := fun _ _ _ => .ok () } K req ctx).log,
      c.Redeclares K lid v := by
  obtain ⟨⟨known, entries⟩, hcollected⟩ :=
    exists_collectEndpoint_foldlM (exposesOf mgroup) ([], []) hmigration.protos
  obtain ⟨-, hknown, hentries⟩ := collectEndpoint_foldlM (exposesOf mgroup) hcollected
  have hfilter : entries.map (fun e => (e.serviceName, e.expose)) =
      (exposesOf mgroup).filter AtIP := hentries
  rw [← hfilter] at hv
  obtain ⟨entry, hentry, rfl⟩ := List.mem_map.mp hv
  refine ⟨redeclareIP K lid entry, ?_, entry.proto,
    collectEndpoint_protos _ hcollected nofun entry hentry, rfl⟩
  refine migrateEndpointHandler_mem_each howner hmigration.decode hmigration.asked
    hmigration.found hcollected ?_
    (Logged.mem_log_each (fun _ _ => rfl) hentry (List.mem_singleton.mpr rfl))
  rw [show known = _ from hknown]
  exact hmigration.known

/-! ## The declared IPs -/

section

variable (S)

/-- What a call does to the declared IPs. -/
def declare (store : List ProviderLeasedIP) : Call → List ProviderLeasedIP
  | .declareIP lid serviceName port externalPort proto sharingKey overwrite =>
    match declareIP S store lid serviceName port externalPort proto sharingKey overwrite with
    | .ok store' => store'
    | .error _ => store
  | _ => store

/-- An IP that was declared for an endpoint of a lease. -/
structure EndpointIP where
  lid : LeaseID
  endpoint : String
  serviceName : String
  port : UInt32
  externalPort : UInt32
  proto : Mani.ServiceProtocol

def EndpointIP.resource (nameHash : String → String) (p : EndpointIP) : ProviderLeasedIP :=
  declaredIP S p.lid p.serviceName p.port p.externalPort p.proto
    (makeIPSharingKey nameHash p.lid p.endpoint)

/-- The resource that a call writes for an expose of the destination. -/
def Writes (K : HandlerSdk) (lid : LeaseID) (v : String × Crd.ManifestServiceExpose)
    (x : ProviderLeasedIP) : Prop :=
  ∃ proto, K.parseServiceProtocol v.2.proto = some proto ∧
    x = EndpointIP.resource S K.nameHash ⟨lid, v.2.ip, v.1, v.2.port.toUInt32,
      (determineExposedExternalPort v.2).toUInt32, proto⟩

end

variable {c : Call} {store : List ProviderLeasedIP} {x : ProviderLeasedIP}

/-- Declaring an IP again puts the resource in the place of those with its name. -/
theorem declare_of_redeclares (hc : c.Redeclares K lid v) : ∃ obj, Writes S K lid v obj ∧
    ∀ {x}, x ∈ store → (x.name ≠ obj.name → x ∈ declare S store c) ∧
      (x.name = obj.name → (x ∈ declare S store c ↔ x = obj)) := by
  obtain ⟨proto, hproto, rfl⟩ := hc
  refine ⟨_, ⟨proto, hproto, rfl⟩, fun {x} hx => ⟨fun hname => ?_, fun hname => ?_⟩⟩
  · simp only [declare, redeclareIP]
    by_cases hfound : (EndpointIP.resource S K.nameHash ⟨lid, v.2.ip, v.1, v.2.port.toUInt32,
        (determineExposedExternalPort v.2).toUInt32, proto⟩).name ∈ store.map (·.name)
    · rw [declareIP_overwrite_of_mem hfound]
      exact List.mem_map.mpr ⟨x, hx, if_neg hname⟩
    · rw [declareIP_of_not_mem hfound]
      exact List.mem_append_left _ hx
  · simp only [declare, redeclareIP]
    rw [declareIP_overwrite_of_mem (hname ▸ List.mem_map_of_mem hx), List.mem_map]
    constructor
    · rintro ⟨y, -, hy⟩
      split at hy
      · exact hy.symm
      · next hne => exact absurd (hy ▸ hname) hne
    · rintro rfl
      exact ⟨_, hx, if_pos rfl⟩

theorem declare_of_not_isDeclareIP (store : List ProviderLeasedIP) (h : ¬ c.IsDeclareIP) :
    declare S store c = store := by
  cases c with
  | declareIP => exact absurd trivial h
  | _ => rfl

theorem mem_foldl_declare {calls : List Call}
    (hkeep : ∀ c ∈ calls, ∀ store, x ∈ store → x ∈ declare S store c) :
    ∀ {store : List ProviderLeasedIP}, x ∈ store → x ∈ calls.foldl (declare S) store := by
  induction calls with
  | nil => exact fun hx => hx
  | cons c calls ih =>
    intro store hx
    exact ih (fun c' hc' => hkeep c' (List.mem_cons_of_mem c hc'))
      (hkeep c List.mem_cons_self store hx)

/-! ## What is moved -/

/-- Only what was asked for is moved: IPs are declared for exposes of the destination at endpoints
of the list, and of those declared before, one at another endpoint stays as it is, whichever calls
take effect. -/
def MovedAsAsked (C : ClusterClient) (K : HandlerSdk) (S : ManifestSdk) (req : Request)
    (ctx : Context κ) (prior : List EndpointIP) : Prop :=
  ∀ answers body, K.decodeEndpointMigrate req.body = some body →
    (∀ c ∈ (migrateEndpointHandler { C with declareIP := answers } K req ctx).log,
      c.IsDeclareIP → ∃ owner lid mgroup, ctx.owner = some owner ∧
        C.findActiveLease owner body.destinationDSeq body.destinationGSeq =
          .ok (some (lid, mgroup)) ∧
        ∃ v ∈ exposesOf mgroup, v.2.ip ∈ body.endpointsToMigrate ∧ c.Redeclares K lid v) ∧
    ∀ applied : List _,
      applied.Sublist (migrateEndpointHandler { C with declareIP := answers } K req ctx).log →
      ∀ p ∈ prior, p.endpoint ∉ body.endpointsToMigrate →
        p.resource S K.nameHash ∈
          applied.foldl (declare S) (prior.map (EndpointIP.resource S K.nameHash))

/-- What the destination declares was asked for, or is declared as something is that was.  An IP
of before at an endpoint that was not asked for, whose name the destination uses, is already that
of the destination. -/
structure AsksForAll (K : HandlerSdk) (S : ManifestSdk) (prior : List EndpointIP)
    (body : EndpointMigrateRequestBody) (lid : LeaseID) (mgroup : Crd.ManifestGroup) : Prop where
  asked : ∀ v ∈ (exposesOf mgroup).filter AtIP, ∀ c : Call, c.Redeclares K lid v →
    ∃ w ∈ exposesOf mgroup, w.2.ip ∈ body.endpointsToMigrate ∧ c.Redeclares K lid w
  others : ∀ p ∈ prior, p.endpoint ∉ body.endpointsToMigrate →
    ∀ v ∈ (exposesOf mgroup).filter AtIP, ∀ x, Writes S K lid v x →
      (p.resource S K.nameHash).name = x.name → p.resource S K.nameHash = x

section

variable {req : Request} {ctx : Context κ} {owner : String} {body : EndpointMigrateRequestBody}
  {lid : LeaseID} {mgroup : Crd.ManifestGroup} {prior : List EndpointIP}

theorem EndpointMigration.of_answers {answers : LeaseID → String → UInt32 → Except ClusterErr Unit}
    (h : EndpointMigration { C with declareIP := answers } K req owner body lid mgroup) :
    EndpointMigration C K req owner body lid mgroup :=
  ⟨h.decode, h.asked, h.found, h.protos, h.known⟩

theorem movedAsAsked_of_asksForAll (hall : ∀ owner body lid mgroup, ctx.owner = some owner →
      EndpointMigration C K req owner body lid mgroup → AsksForAll K S prior body lid mgroup) :
    MovedAsAsked C K S req ctx prior := by
  intro answers body hbody
  -- every call is for an expose of the destination
  have hcalls : ∀ c ∈ (migrateEndpointHandler { C with declareIP := answers } K req ctx).log,
      c.IsDeclareIP → ∃ owner lid mgroup, ctx.owner = some owner ∧
        EndpointMigration C K req owner body lid mgroup ∧ AsksForAll K S prior body lid mgroup ∧
        ∃ v ∈ (exposesOf mgroup).filter AtIP, c.Redeclares K lid v := by
    intro c hc hdeclare
    obtain ⟨owner, body', lid, mgroup, howner, hmigration, v, hv, hcall⟩ :=
      migrateEndpointHandler_declares req ctx c hc hdeclare
    obtain rfl : body' = body := Option.some.inj (hmigration.decode.symm.trans hbody)
    exact ⟨owner, lid, mgroup, howner, hmigration.of_answers,
      hall owner body' lid mgroup howner hmigration.of_answers, v, hv, hcall⟩
  constructor
  · intro c hc hdeclare
    obtain ⟨owner, lid, mgroup, howner, hmigration, hasks, v, hv, hcall⟩ := hcalls c hc hdeclare
    exact ⟨owner, lid, mgroup, howner, hmigration.found, hasks.asked v hv c hcall⟩
  · intro applied hsub p hp hnot
    refine mem_foldl_declare (fun c hc store hx => ?_) (List.mem_map_of_mem hp)
    by_cases hdeclare : c.IsDeclareIP
    · obtain ⟨owner, lid, mgroup, -, -, hasks, v, hv, hcall⟩ := hcalls c (hsub.subset hc) hdeclare
      obtain ⟨obj, hwrites, hstore⟩ := declare_of_redeclares hcall
      obtain ⟨hother, hsame⟩ := hstore hx
      by_cases hname : (p.resource S K.nameHash).name = obj.name
      · exact (hsame hname).mpr (hasks.others p hp hnot v hv obj hwrites hname)
      · exact hother hname
    · rwa [declare_of_not_isDeclareIP store hdeclare]

theorem asksForAll_of_movedAsAsked (howner : ctx.owner = some owner)
    (hmigration : EndpointMigration C K req owner body lid mgroup)
    (h : MovedAsAsked C K S req ctx prior) : AsksForAll K S prior body lid mgroup := by
  -- the call for an expose is made, if those before it succeed
  have hmade : ∀ v ∈ (exposesOf mgroup).filter AtIP, ∀ c : Call, c.Redeclares K lid v →
      c ∈ (migrateEndpointHandler { C with declareIP := fun _ _ _ => .ok () } K req ctx).log := by
    intro v hv c hcall
    obtain ⟨c', hc', hcall'⟩ := migrateEndpointHandler_declares_all howner hmigration hv
    obtain ⟨proto, hproto, rfl⟩ := hcall
    obtain ⟨proto', hproto', rfl⟩ := hcall'
    rw [hproto] at hproto'
    cases hproto'
    exact hc'
  obtain ⟨hcalls, hkept⟩ := h (fun _ _ _ => .ok ()) body hmigration.decode
  constructor
  · intro v hv c hcall
    have hdeclare : c.IsDeclareIP := by
      obtain ⟨proto, -, rfl⟩ := hcall
      trivial
    obtain ⟨owner', lid', mgroup', howner', hfound, w, hw, hasked, hcall'⟩ :=
      hcalls c (hmade v hv c hcall) hdeclare
    cases howner.symm.trans howner'
    cases hmigration.found.symm.trans hfound
    exact ⟨w, hw, hasked, hcall'⟩
  · intro p hp hnot v hv x hwrites hname
    obtain ⟨proto, hproto, rfl⟩ := hwrites
    have hcall : (redeclareIP K lid ⟨v.2, v.1, proto⟩).Redeclares K lid v := ⟨proto, hproto, rfl⟩
    have hstays := hkept [redeclareIP K lid ⟨v.2, v.1, proto⟩]
      (List.singleton_sublist.mpr (hmade v hv _ hcall)) p hp hnot
    rw [List.foldl_cons, List.foldl_nil] at hstays
    obtain ⟨obj, ⟨proto', hproto', rfl⟩, hstore⟩ := declare_of_redeclares (S := S) hcall
    cases hproto.symm.trans hproto'
    exact ((hstore (List.mem_map_of_mem hp)).2 hname).mp hstays

end

/-- A destination with the IPs of two endpoints. -/
def twoIPsGroup : Crd.ManifestGroup := storedGroup [([], "ip1"), ([], "ip2")]

def twoIPsCluster : ClusterClient :=
  { plainCluster with findActiveLease := fun _ _ _ => .ok (some (tenantLease, twoIPsGroup)) }

/-- The IP of `ip2` for a service of another lease of the owner. -/
def otherIP : EndpointIP := ⟨⟨"owner", 41, 1, 1, "provider"⟩, "ip2", "db", 5432, 80, .tcp⟩

end AkashProvider.Gateway
