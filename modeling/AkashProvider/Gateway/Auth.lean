import AkashProvider.Gateway.Routes

/-!
# Who a client is

A client shows a certificate, which makes its subject the issuer of claims with full access, or a
token, which is verified with the public key of the issuer that it names.  With neither there are
claims without an issuer.  `JwtSdk.Sound` and `AddressesKept` say what is assumed of the packages
that parse them.
-/

namespace AkashProvider.Gateway

/-! ## Claims -/

/-- `unset` is the zero value. -/
inductive AccessType where
  | unset | none | full | scoped | granular
deriving DecidableEq

/-- `rest` is what only the other package reads. -/
structure Claims (ρ : Type) where
  issuer : String
  version : String
  issuedAt : Option Int
  notBefore : Option Int
  expiresAt : Option Int
  access : AccessType
  rest : ρ

/-- An error, with the status that goes with it if it has one. -/
inductive AuthErr where
  | http (err : HttpError)
  | other (text : String)

def errJWTInvalidClaims : HttpError := ⟨400, "JWT has invalid claims"⟩
def errAuthAmbiguous : HttpError :=
  ⟨400, "auth: ambiguous authentication. may not use mTLS and JWT at the same time"⟩
def errJWTInvalid : HttpError := ⟨401, "JWT is invalid"⟩
def errJWTExpired : HttpError := ⟨401, "JWT is expired"⟩

def authErrorResponse : AuthErr → HttpError
  | .http err => err
  | .other _ => ⟨500, "unknown error while processing JWT"⟩

/-- Which errors of the JWT package an error wraps. -/
structure JwtErr where
  tokenInvalidClaims : Bool
  tokenExpired : Bool
  tokenNotValidYet : Bool
  tokenUsedBeforeIssued : Bool

/-- The reply to a token that was not parsed, or is not valid. -/
def jwtErrorToHTTP : Option JwtErr → HttpError
  | none => errJWTInvalid
  | some err =>
    if err.tokenInvalidClaims then errJWTInvalidClaims
    else if err.tokenExpired then errJWTExpired
    else if err.tokenNotValidYet then errJWTInvalid
    else if err.tokenUsedBeforeIssued then errJWTInvalid
    else errJWTInvalid

/-- Why there is no public key for an account. -/
inductive AccountErr where
  | notExist
  | other (text : String)

structure Verifier (α π : Type) where
  publicKey : π
  address : α

/-- The functions of other packages, for addresses in `α` and public keys in `π`. -/
structure JwtSdk (α π ρ : Type) where
  accAddressFromBech32 : String → Except String α
  addressString : α → String
  validate : Claims ρ → Except String Unit
  /-- There is a querier in the context. -/
  accountQuerierFromCtx : Except String Unit
  getAccountPublicKey : α → Except AccountErr π
  /-- For a token, the function that finds its key, and the methods that are valid: the claims
  and `Valid`. -/
  parseWithClaims : String → (Claims ρ → Except AuthErr (Verifier α π)) → List String →
    Except JwtErr (Claims ρ × Bool)

variable {α π ρ : Type}

/-- A token is parsed only if the verifier of its claims accepts it. -/
def JwtSdk.Sound (J : JwtSdk α π ρ) (accepts : Verifier α π → String → Prop) : Prop :=
  ∀ token keyFunc methods claims valid,
    J.parseWithClaims token keyFunc methods = .ok (claims, valid) →
      ∃ verifier, keyFunc claims = .ok verifier ∧ accepts verifier token

/-! ## Authentication -/

section

variable [Inhabited ρ] (J : JwtSdk α π ρ)

/-- `claims` with nothing but the access. -/
def noAccess : Claims ρ := ⟨"", "", none, none, none, .none, default⟩

/-- The claims of the subject of a certificate, from `now` on for fifteen minutes. -/
def fullAccess (owner : α) (now : Int) : Claims ρ where
  issuer := J.addressString owner
  version := "v1"
  issuedAt := some now
  notBefore := some now
  expiresAt := some (now + 15 * 60 * 1000000000)
  access := .full
  rest := default

/-- Authentication by certificates. -/
def certificateClaims (now : Int) : List Certificate → Except AuthErr (Claims ρ)
  | [cert] => do
    let owner ← (J.accAddressFromBech32 cert.commonName).mapError .other
    (J.validate (fullAccess J owner now)).mapError .other
    .ok (fullAccess J owner now)
  | _ => .ok noAccess

/-- The key for a token, by the issuer that its claims name. -/
def verifierOf (claims : Claims ρ) : Except AuthErr (Verifier α π) := do
  let iss ← (J.accAddressFromBech32 claims.issuer).mapError .other
  J.accountQuerierFromCtx.mapError .other
  match J.getAccountPublicKey iss with
  | .ok pk => .ok ⟨pk, iss⟩
  | .error .notExist => .error (.http errJWTInvalid)
  | .error (.other text) => .error (.other text)

def authProcess (now : Int) (peerCerts : List Certificate) (token : String) :
    Except AuthErr (Claims ρ) := do
  let claims ← certificateClaims J now peerCerts
  if claims.access ≠ .none ∧ token ≠ "" then .error (.http errAuthAmbiguous)
  else if token ≠ "" then
    -- the claims are those of the token
    match J.parseWithClaims token (verifierOf J) ["ES256K", "ES256KADR36"] with
    | .ok (claims, true) => .ok claims
    | .ok (_, false) => .error (.http (jwtErrorToHTTP none))
    | .error err => .error (.http (jwtErrorToHTTP (some err)))
  else .ok claims

/-- What the steps of the gateway use, with this authentication. -/
def authSdk (S : AuthSdk (Claims ρ)) (now : Int) : AuthSdk (Claims ρ) :=
  { S with
    authProcess := fun certs token => (authProcess J now certs token).mapError authErrorResponse }

end

/-! ## What claims rest on -/

section

variable {J : JwtSdk α π ρ} {now : Int} {claims : Claims ρ}

/-- The claims are those of the one certificate. -/
def ByCertificate (J : JwtSdk α π ρ) (peerCerts : List Certificate) (claims : Claims ρ) : Prop :=
  claims.access = .full ∧ ∃ cert owner, peerCerts = [cert] ∧
    J.accAddressFromBech32 cert.commonName = .ok owner ∧ claims.issuer = J.addressString owner

/-- The claims are those of a token that verifies with the key stored for the issuer. -/
def ByToken (J : JwtSdk α π ρ) (accepts : Verifier α π → String → Prop) (token : String)
    (claims : Claims ρ) : Prop :=
  ∃ iss pk, J.accAddressFromBech32 claims.issuer = .ok iss ∧
    J.getAccountPublicKey iss = .ok pk ∧ accepts ⟨pk, iss⟩ token

theorem verifierOf_eq_ok {verifier : Verifier α π} (h : verifierOf J claims = .ok verifier) :
    J.accAddressFromBech32 claims.issuer = .ok verifier.address ∧
      J.getAccountPublicKey verifier.address = .ok verifier.publicKey := by
  obtain ⟨iss, hiss, h⟩ := Except.bind_eq_ok_iff.mp h
  obtain ⟨-, -, h⟩ := Except.bind_eq_ok_iff.mp h
  split at h
  · next pk hpk =>
    cases h
    exact ⟨Except.mapError_eq_ok_iff.mp hiss, hpk⟩
  · cases h
  · cases h

variable [Inhabited ρ]

variable {peerCerts : List Certificate}

theorem certificateClaims_eq_ok (h : certificateClaims J now peerCerts = .ok claims) :
    ByCertificate J peerCerts claims ∨ claims = noAccess ∧ peerCerts.length ≠ 1 := by
  rcases peerCerts with _ | ⟨cert, _ | ⟨cert', certs⟩⟩
  · exact .inr ⟨(Except.ok.inj h).symm, by decide⟩
  · obtain ⟨owner, howner, h⟩ := Except.bind_eq_ok_iff.mp h
    obtain ⟨-, -, h⟩ := Except.bind_eq_ok_iff.mp h
    cases h
    exact .inl ⟨rfl, cert, owner, rfl, Except.mapError_eq_ok_iff.mp howner, rfl⟩
  · exact .inr ⟨(Except.ok.inj h).symm, by simp⟩

variable {token : String}

theorem authProcess_eq_ok {accepts : Verifier α π → String → Prop} (hJ : J.Sound accepts)
    (h : authProcess J now peerCerts token = .ok claims) :
    (token = "" ∧ certificateClaims J now peerCerts = .ok claims) ∨
      ByToken J accepts token claims := by
  obtain ⟨certClaims, hcert, h⟩ := Except.bind_eq_ok_iff.mp h
  split at h
  · cases h
  · split at h
    · split at h
      · next hparse =>
        cases h
        obtain ⟨verifier, hverifier, haccepts⟩ := hJ _ _ _ _ _ hparse
        obtain ⟨hiss, hpk⟩ := verifierOf_eq_ok hverifier
        exact .inr ⟨_, _, hiss, hpk, haccepts⟩
      · cases h
      · cases h
    · next htoken =>
      cases h
      exact .inl ⟨not_not.mp htoken, hcert⟩

theorem authProcess_ambiguous (cert : Certificate) (htoken : token ≠ "") :
    ∃ err, authProcess J now [cert] token = .error err := by
  cases hcert : certificateClaims J now [cert] with
  | error err =>
    refine ⟨err, ?_⟩
    simp only [authProcess, hcert, bind, Except.bind]
  | ok claims =>
    have haccess : claims.access ≠ .none := by
      rcases certificateClaims_eq_ok hcert with hby | ⟨-, hlength⟩
      · rw [hby.1]
        decide
      · exact absurd rfl hlength
    simp_all [authProcess, bind, Except.bind]

end

/-! ## The IDs that handlers see -/

section

variable {S : AuthSdk (Claims ρ)} {req : Request} {vars : Vars} {owner provider : String}

/-- Addresses are read back as written, the claims of an issuer give its address, and the IDs that
are parsed have the addresses of their paths. -/
@[grind cases]
structure AddressesKept (J : JwtSdk α π ρ) (S : AuthSdk (Claims ρ)) : Prop where
  round_trip : ∀ a, J.accAddressFromBech32 (J.addressString a) = .ok a
  not_empty : ∀ a, J.accAddressFromBech32 "" ≠ .ok a
  issuer : ∀ claims, S.issuerAddress claims ≠ "" → ∃ a,
    J.accAddressFromBech32 claims.issuer = .ok a ∧ S.issuerAddress claims = J.addressString a
  deployment : ∀ owner dseq did, S.parseDeploymentPath [owner, dseq] = .ok did → ∃ a,
    J.accAddressFromBech32 owner = .ok a ∧ did.owner = J.addressString a
  lease : ∀ owner dseq gseq oseq provider lid,
    S.parseLeasePath [owner, dseq, gseq, oseq, provider] = .ok lid → ∃ a b,
      J.accAddressFromBech32 owner = .ok a ∧ lid.owner = J.addressString a ∧
      J.accAddressFromBech32 provider = .ok b ∧ lid.provider = J.addressString b

/-- The IDs of a context were parsed with its owner and its provider. -/
@[grind cases]
structure ParsedFor (S : AuthSdk (Claims ρ)) (owner provider : String)
    (ctx : Context (Claims ρ)) : Prop where
  owner_eq : ctx.owner = some owner
  provider_eq : ctx.provider = some provider
  deployment : ∀ did, ctx.deployment = some did →
    ∃ dseq, S.parseDeploymentPath [owner, dseq] = .ok did
  lease : ∀ lid, ctx.lease = some lid → ∃ dseq gseq oseq,
    S.parseLeasePath [owner, dseq, gseq, oseq, provider] = .ok lid

/-- A step keeps the IDs of the context right. -/
def Middleware.KeepsIDs (S : AuthSdk (Claims ρ)) (owner provider : String)
    (m : Middleware (Claims ρ)) : Prop :=
  ∀ req vars ctx ctx', m req vars ctx = .ok ctx' → ParsedFor S owner provider ctx →
    ParsedFor S owner provider ctx'

theorem requireDeploymentID_keepsIDs :
    Middleware.KeepsIDs S owner provider (requireDeploymentID S) := by
  intro req vars ctx ctx' h hids
  obtain ⟨did, _, _, hparse, -, -, -, rfl⟩ := requireDeploymentID_eq_ok_iff.mp h
  obtain ⟨owner', howner', hparse⟩ := parseDeploymentID_eq_ok_iff.mp hparse
  cases hids.owner_eq.symm.trans howner'
  refine { hids with deployment := ?_ }
  rintro _ ⟨⟩
  exact ⟨_, hparse⟩

theorem requireLeaseID_keepsIDs : Middleware.KeepsIDs S owner provider (requireLeaseID S) := by
  intro req vars ctx ctx' h hids
  obtain ⟨lid, _, hparse, -, -, rfl⟩ := requireLeaseID_eq_ok_iff.mp h
  obtain ⟨owner', provider', howner', hprovider', hparse⟩ := parseLeaseID_eq_ok_iff.mp hparse
  cases hids.owner_eq.symm.trans howner'
  cases hids.provider_eq.symm.trans hprovider'
  refine { hids with lease := ?_ }
  rintro _ ⟨⟩
  exact ⟨_, _, _, hparse⟩

theorem requireEndpointScopeForDeploymentID_keepsIDs (scope : PermissionScope) :
    Middleware.KeepsIDs S owner provider (requireEndpointScopeForDeploymentID S scope) := by
  intro req vars ctx ctx' h hids
  grind [requireEndpointScopeForDeploymentID_eq_ok_iff]

theorem requireEndpointScopeForLeaseID_keepsIDs (scope : PermissionScope) :
    Middleware.KeepsIDs S owner provider (requireEndpointScopeForLeaseID S scope) := by
  intro req vars ctx ctx' h hids
  obtain ⟨_, _, -, -, -, rfl⟩ := requireEndpointScopeForLeaseID_eq_ok_iff.mp h
  exact hids

theorem requireService_keepsIDs : Middleware.KeepsIDs S owner provider requireService := by
  intro req vars ctx ctx' h hids
  obtain ⟨-, rfl⟩ := requireService_eq_ok_iff.mp h
  exact { hids with }

theorem requestStreamParams_keepsIDs :
    Middleware.KeepsIDs S owner provider (requestStreamParams S) := by
  intro req vars ctx ctx' h hids
  obtain ⟨_, _, _, rfl⟩ := requestStreamParams_eq_ok h
  exact { hids with }

theorem ownSteps_keepsIDs (handler : Handler) :
    ∀ m ∈ handler.ownSteps S, Middleware.KeepsIDs S owner provider m := by
  cases handler <;>
    simp only [Handler.ownSteps, List.forall_mem_cons, List.not_mem_nil, false_implies,
      implies_true, and_true, requireDeploymentID_keepsIDs, requireLeaseID_keepsIDs,
      requireEndpointScopeForDeploymentID_keepsIDs, requireEndpointScopeForLeaseID_keepsIDs,
      requireService_keepsIDs, requestStreamParams_keepsIDs]

theorem parsedFor_of_pass {steps : List (Middleware (Claims ρ))}
    (hsteps : ∀ m ∈ steps, Middleware.KeepsIDs S owner provider m) :
    ∀ {ctx ctx' : Context (Claims ρ)}, pass req vars steps ctx = .ok ctx' →
      ParsedFor S owner provider ctx → ParsedFor S owner provider ctx' := by
  induction steps with
  | nil =>
    intro ctx ctx' h hids
    cases pass_nil_eq_ok_iff.mp h
    exact hids
  | cons m steps ih =>
    intro ctx ctx' h hids
    obtain ⟨hm, hsteps⟩ := List.forall_mem_cons.mp hsteps
    obtain ⟨mid, hmid, h⟩ := pass_cons_eq_ok_iff.mp h
    exact ih hsteps h (hm _ _ _ _ hmid hids)

end

/-- A request is routed to a handler, which gets it with a context. -/
def Reaches {κ : Type} (S : AuthSdk κ) (addr : String) (middlewares : List (Middleware κ))
    (req : Request) (handler : Handler) (ctx : Context κ) : Prop :=
  ∃ steps vars, (newRouter S addr middlewares).route req.method req.path =
    .found steps handler vars ∧ pass req vars steps {} = .ok ctx

/-- An owner is the issuer of claims, which there is. -/
def IssuedBy (J : JwtSdk α π ρ) (claims : Claims ρ) (owner : String) : Prop :=
  claims.issuer ≠ "" ∧ ∃ iss, J.accAddressFromBech32 claims.issuer = .ok iss ∧
    owner = J.addressString iss

section

variable {J : JwtSdk α π ρ} {S : AuthSdk (Claims ρ)} {req : Request} {claims : Claims ρ}
  {provider : α}

/-- The IDs of a context are of the issuer and of this provider. -/
@[grind cases]
structure IDsOf (J : JwtSdk α π ρ) (claims : Claims ρ) (provider : α)
    (ctx : Context (Claims ρ)) : Prop where
  deployment : ∀ did, ctx.deployment = some did → IssuedBy J claims did.owner
  lease : ∀ lid, ctx.lease = some lid →
    IssuedBy J claims lid.owner ∧ lid.provider = J.addressString provider

theorem issuedBy_of_parsed (hS : AddressesKept J S) (howner : S.issuerAddress claims ≠ "")
    {a : α} (ha : J.accAddressFromBech32 (S.issuerAddress claims) = .ok a) :
    IssuedBy J claims (J.addressString a) := by
  grind [IssuedBy]

variable {ctx : Context (Claims ρ)}

theorem idsOf_of_parsedFor (hS : AddressesKept J S) (howner : S.issuerAddress claims ≠ "")
    (h : ParsedFor S (S.issuerAddress claims) (J.addressString provider) ctx) :
    IDsOf J claims provider ctx where
  deployment := by grind [issuedBy_of_parsed]
  lease := by grind [issuedBy_of_parsed]

theorem idsOf_of_reaches (hS : AddressesKept J S) {middlewares : List (Middleware (Claims ρ))}
    (hpass : ∀ m ∈ middlewares, Middleware.Passes m) {handler : Handler}
    (h : Reaches S (J.addressString provider) middlewares req handler ctx) :
    ∃ claims, authenticate S req = .ok claims ∧ IDsOf J claims provider ctx := by
  obtain ⟨steps, vars, hroute, h⟩ := h
  obtain rfl : steps = _ := (newRouter_steps _ middlewares).route hroute
  obtain ⟨claims, hauth, h⟩ := (pass_client_eq_ok_iff hpass).mp h
  refine ⟨claims, hauth, ?_⟩
  cases hauthed : handler.authed with
  | false =>
    -- a handler for everybody gets no IDs
    simp only [hauthed, Bool.false_eq_true, if_false] at h
    cases pass_nil_eq_ok_iff.mp h
    exact ⟨fun did hdid => (by cases hdid), fun lid hlid => (by cases hlid)⟩
  | true =>
    simp only [hauthed, if_true] at h
    obtain ⟨-, howner, h⟩ := pass_authed_eq_ok_iff.mp h
    refine idsOf_of_parsedFor hS howner (parsedFor_of_pass (ownSteps_keepsIDs handler) h ?_)
    exact ⟨rfl, rfl, fun did hdid => (by cases hdid), fun lid hlid => (by cases hlid)⟩

end

/-- Claims with an issuer rest on the one certificate of its address, or on a token that verifies
with its key, and not on both.  The IDs that a handler gets are of the issuer and of this provider.
-/
theorem auth_not_bypassable [Inhabited ρ] {J : JwtSdk α π ρ}
    {accepts : Verifier α π → String → Prop} (hJ : J.Sound accepts) {S : AuthSdk (Claims ρ)}
    (hS : AddressesKept J S) (provider : α) {middlewares : List (Middleware (Claims ρ))}
    (hpass : ∀ m ∈ middlewares, Middleware.Passes m) (now : Int) :
    (∀ peerCerts token claims, authProcess J now peerCerts token = .ok claims →
      claims.issuer ≠ "" →
        (token = "" ∧ ByCertificate J peerCerts claims) ∨ ByToken J accepts token claims) ∧
    (∀ cert token, token ≠ "" → ∃ err, authProcess J now [cert] token = .error err) ∧
    ∀ req handler ctx,
      Reaches (authSdk J S now) (J.addressString provider) middlewares req handler ctx →
        ∃ token claims, authHeaderTokenExtractor S req = .ok token ∧
          authProcess J now req.peerCertificates token = .ok claims ∧
          IDsOf J claims provider ctx := by
  refine ⟨?_, fun cert token => authProcess_ambiguous cert, ?_⟩
  · intro peerCerts token claims h hissuer
    rcases authProcess_eq_ok hJ h with ⟨htoken, hcert⟩ | hby
    · rcases certificateClaims_eq_ok hcert with hby | ⟨rfl, -⟩
      · exact .inl ⟨htoken, hby⟩
      · exact absurd rfl hissuer
    · exact .inr hby
  · intro req handler ctx h
    have hkept : AddressesKept J (authSdk J S now) := { hS with }
    obtain ⟨claims, hauth, hids⟩ := idsOf_of_reaches hkept hpass h
    obtain ⟨token, htoken, hclaims⟩ := Except.bind_eq_ok_iff.mp hauth
    exact ⟨token, claims, htoken, Except.mapError_eq_ok_iff.mp hclaims, hids⟩

/-! ## A client with a token -/

abbrev PlainAddress := { s : String // s ≠ "" }

/-- Addresses and keys are their texts, and a token is the name of its issuer. -/
def plainJwt : JwtSdk PlainAddress String Unit where
  accAddressFromBech32 s :=
    if h : s = "" then .error "empty address string is not allowed" else .ok ⟨s, h⟩
  addressString a := a.val
  validate _ := .ok ()
  accountQuerierFromCtx := .ok ()
  getAccountPublicKey iss := if iss.val = "owner" then .ok iss.val else .error .notExist
  parseWithClaims token keyFunc _ :=
    match keyFunc ⟨token, "v1", none, none, none, .granular, ()⟩ with
    | .error _ => .error ⟨false, false, false, false⟩
    | .ok verifier =>
      if verifier.publicKey = token then
        .ok (⟨token, "v1", none, none, none, .granular, ()⟩, true)
      else .error ⟨false, false, false, false⟩

theorem plainJwt_sound :
    plainJwt.Sound fun verifier token => verifier.publicKey = token := by
  intro token keyFunc methods claims valid h
  simp only [plainJwt] at h
  grind

/-- Claims authorize everything, and all paths have the numbers of one lease. -/
def plainClaimsAuth : AuthSdk (Claims Unit) where
  issuerAddress claims := claims.issuer
  authorizeForProvider _ _ := true
  authorizeForDeploymentID _ _ _ := true
  authorizeForLeaseID _ _ := true
  authorizeDeploymentIDForPermissionScope _ _ _ _ := true
  authorizeLeaseIDForPermissionScope _ _ _ := true
  authProcess _ _ := .error errUnauthorized
  parseDeploymentPath
    | [owner, _] => if owner = "" then .error "invalid owner" else .ok ⟨owner, 42⟩
    | _ => .error "invalid path"
  parseLeasePath
    | [owner, _, _, _, provider] =>
      if owner = "" then .error "invalid owner"
      else if provider = "" then .error "invalid provider"
      else .ok ⟨owner, 42, 1, 1, provider⟩
    | _ => .error "invalid path"
  fields s := if s = "Bearer owner" then ["Bearer", "owner"] else [s]
  toLower _ := "bearer"
  parseBool _ := .ok false
  parseInt32 _ := .ok 0

theorem plainJwt_ok {s : String} (h : s ≠ "") : plainJwt.accAddressFromBech32 s = .ok ⟨s, h⟩ :=
  dif_neg h

theorem plainClaimsAuth_addressesKept : AddressesKept plainJwt plainClaimsAuth where
  round_trip a := plainJwt_ok a.property
  not_empty a h := by cases h
  issuer claims h := ⟨⟨claims.issuer, h⟩, plainJwt_ok h, rfl⟩
  deployment := by
    intro owner dseq did h
    simp only [plainClaimsAuth] at h
    split at h
    · cases h
    · next howner =>
      cases h
      exact ⟨⟨owner, howner⟩, plainJwt_ok howner, rfl⟩
  lease := by
    intro owner dseq gseq oseq provider lid h
    simp only [plainClaimsAuth] at h
    split at h
    · cases h
    · next howner =>
      split at h
      · cases h
      · next hprovider =>
        cases h
        exact ⟨⟨owner, howner⟩, ⟨provider, hprovider⟩, plainJwt_ok howner, rfl,
          plainJwt_ok hprovider, rfl⟩

/-- The manifest of a lease, asked for with a token. -/
def tokenRequest : Request :=
  ⟨"GET", ["lease", "42", "1", "1", "manifest"], [], "Bearer owner", [], ""⟩

/-- The token is that of the owner, who gets at their lease.  With a certificate it would be
rejected. -/
theorem auth_not_bypassable_token :
    ByToken plainJwt (fun verifier token => verifier.publicKey = token) "owner"
        ⟨"owner", "v1", none, none, none, .granular, ()⟩ ∧
      (∃ err, authProcess plainJwt 0 [⟨"owner"⟩] "owner" = .error err) ∧
      ∃ ctx claims, ctx.lease = some ⟨"owner", 42, 1, 1, "provider"⟩ ∧
        IDsOf plainJwt claims ⟨"provider", by decide⟩ ctx := by
  obtain ⟨hissuer, hambiguous, hids⟩ := auth_not_bypassable plainJwt_sound
    plainClaimsAuth_addressesKept ⟨"provider", by decide⟩
    (fun m hm => List.mem_singleton.mp hm ▸ restMiddleware_passes) 0
  refine ⟨?_, hambiguous ⟨"owner"⟩ "owner" (by decide), ?_⟩
  · rcases hissuer [] "owner" _ rfl (by decide) with ⟨htoken, -⟩ | hby
    · exact absurd htoken (by decide)
    · exact hby
  · obtain ⟨-, claims, -, -, h⟩ := hids tokenRequest .getManifest
      { provider := some "provider"
        claims := some ⟨"owner", "v1", none, none, none, .granular, ()⟩
        owner := some "owner"
        lease := some ⟨"owner", 42, 1, 1, "provider"⟩ } ⟨_, _, rfl, rfl⟩
    exact ⟨_, claims, rfl, h⟩

end AkashProvider.Gateway
