import AkashProvider.Lib.Run
import AkashProvider.Types.Resources

/-!
# The attributes of the provider

The monitors of the orders ask one service for attributes.  Its loop never waits for the chain:
queries are made by goroutines, which send their results back on channels.

*Signed attributes* are cached.  A request that the cache does not answer is pending for its
auditor, and a fetch is started, whose result answers all that is pending for the auditor then.

*Own attributes.*  The list fetched last is in `attr`.  The channel `currAttr`, with room for one
list, holds what the next request gets.  `fetchAttr` and `pushAttr` signal the loop to fetch and
to fill it.  The slot `fetchInProgress` is modelled by where the goroutine is that filled it.

An event comes as a value or as a pointer, and `handleEvent` knows values only.  The fields after
the goroutines are a record that no step reads.
-/

namespace AkashProvider

/-! ## Signed attributes -/

structure AuditedProvider where
  owner : String
  auditor : String
  attributes : Attributes
deriving DecidableEq

abbrev AuditedProviders := List AuditedProvider

structure AttrServiceConfig where
  providerAddr : String
  ttl : Int

structure AuditedAttrRequest where
  ref : Nat
  auditor : String
  /-- How many events about the auditor came before the request; a record. -/
  audits : Nat
deriving DecidableEq

structure ProviderAttrEntry where
  providerAttr : AuditedProviders
  storedAt : Int
  /-- How many events about the auditor came before the fetch; a record. -/
  audits : Nat

inductive AuditFetchStage where
  | querying
  | sending (result : Except String AuditedProviders)

/-- A goroutine that `maybeStart` has started, until its result is taken. -/
structure AuditFetch where
  auditor : String
  stage : AuditFetchStage
  /-- How many events about the auditor came before the start; a record. -/
  audits : Nat

structure AuditAnswer where
  request : AuditedAttrRequest
  result : Except String AuditedProviders
  /-- How many events about the auditor came before the fetch. -/
  audits : Nat
deriving DecidableEq

structure AuditedAttrs where
  data : List (String × ProviderAttrEntry)
  inProgress : List String
  /-- The pending requests of all auditors. -/
  pending : List AuditedAttrRequest
  fetches : List AuditFetch
  taken : List AuditedAttrRequest
  answers : List AuditAnswer
  /-- The auditors that events about the provider have named. -/
  audits : List String

inductive AuditedEvent where
  | request (auditor : String)
  | queried (i : Nat) (result : Except String AuditedProviders)
  /-- The result of a goroutine is taken.  `order` is the order in which the cache is iterated. -/
  | fetched (i : Nat) (order : List String)
deriving DecidableEq

def providerAttrSize (entries : AuditedProviders) : Nat := (entries.map (·.attributes.length)).sum

/-- The regular expression `^.*invalid provider: address not found.*$`. -/
def invalidProviderPattern (text : String) : Bool :=
  '\n' ∉ text.toList ∧ "invalid provider: address not found".toList <:+: text.toList

/-- What `fetch` makes of the answer of the chain. -/
def auditedAttrResult : Except String AuditedProviders → Except String AuditedProviders
  | .ok providers => .ok providers
  | .error text => if invalidProviderPattern text then .ok [] else .error text

namespace AuditedAttrs

variable (cfg : AttrServiceConfig) (now : Int)

def maxEntries : Nat := 50000

/-- The first entries that together reach half of `maxEntries`. -/
def pruned (size : Nat) : List (String × ProviderAttrEntry) → List String
  | [] => []
  | (auditor, entry) :: rest =>
    let size := size + providerAttrSize entry.providerAttr
    if maxEntries / 2 ≤ size then [auditor] else auditor :: pruned size rest

/-- The entries in the order of `order`. -/
def iterate (order : List String) (data : List (String × ProviderAttrEntry)) :
    List (String × ProviderAttrEntry) :=
  data.insertionSort fun x y => order.idxOf x.1 ≤ order.idxOf y.1

def trimCache (order : List String) (data : List (String × ProviderAttrEntry)) :
    List (String × ProviderAttrEntry) :=
  let data := data.filter fun e => now - e.2.storedAt ≤ cfg.ttl
  if maxEntries < (data.map fun e => providerAttrSize e.2.providerAttr).sum then
    let toDelete := pruned 0 (iterate order data)
    data.filter fun e => e.1 ∉ toDelete
  else data

def purgeAuditor (s : AuditedAttrs) (auditor : String) : AuditedAttrs :=
  { s with data := s.data.filter (·.1 ≠ auditor) }

def pendingFor (s : AuditedAttrs) (auditor : String) : List AuditedAttrRequest :=
  s.pending.filter (·.auditor = auditor)

def deletePending (s : AuditedAttrs) (auditor : String) : AuditedAttrs :=
  { s with pending := s.pending.filter (·.auditor ≠ auditor) }

def answerPending (s : AuditedAttrs) (auditor : String) (result : Except String AuditedProviders)
    (audits : Nat) : AuditedAttrs :=
  { s with answers := s.answers ++ (s.pendingFor auditor).map (⟨·, result, audits⟩) }

def failAllPending (s : AuditedAttrs) (auditor : String) (err : String) (audits : Nat) :
    AuditedAttrs :=
  (s.answerPending auditor (.error err) audits).deletePending auditor

def completeAllPending (order : List String) (s : AuditedAttrs) (auditor : String)
    (result : AuditedProviders) (audits : Nat) : AuditedAttrs :=
  let s := (s.answerPending auditor (.ok result) audits).deletePending auditor
  { s with
    data := trimCache cfg now order
      ((auditor, ⟨result, now, audits⟩) :: s.data.filter (·.1 ≠ auditor)) }

def takeResult (order : List String) (s : AuditedAttrs) (auditor : String) (audits : Nat) :
    Except String AuditedProviders → AuditedAttrs
  | .error err => (s.failAllPending auditor err audits).deletePending auditor
  | .ok result => (s.completeAllPending cfg now order auditor result audits).deletePending auditor

def maybeStart (s : AuditedAttrs) (auditor : String) : AuditedAttrs :=
  if s.pendingFor auditor = [] then s
  else if auditor ∈ s.inProgress then s
  else { s with fetches := s.fetches ++ [⟨auditor, .querying, s.audits.count auditor⟩] }

/-- The cached entry that answers a request. -/
def cached (s : AuditedAttrs) (auditor : String) : Option ProviderAttrEntry :=
  (s.data.lookup auditor).filter fun entry => now - entry.storedAt < cfg.ttl

def addRequest (s : AuditedAttrs) (request : AuditedAttrRequest) : AuditedAttrs × Bool :=
  match s.cached cfg now request.auditor with
  | some entry =>
    ({ s with answers := s.answers ++ [⟨request, .ok entry.providerAttr, entry.audits⟩] }, false)
  | none => ({ s with pending := s.pending ++ [request] }, true)

def takeRequest (s : AuditedAttrs) (auditor : String) : AuditedAttrs :=
  let request : AuditedAttrRequest := ⟨s.taken.length, auditor, s.audits.count auditor⟩
  let (s, start) := { s with taken := s.taken ++ [request] }.addRequest cfg now request
  if start then s.maybeStart auditor else s

def step (looping : Bool) (s : AuditedAttrs) : AuditedEvent → Option AuditedAttrs
  | .request auditor => if looping then some (s.takeRequest cfg now auditor) else none
  | .queried i result =>
    match s.fetches[i]? with
    | some ⟨auditor, .querying, audits⟩ =>
      some { s with
        fetches := s.fetches.set i ⟨auditor, .sending (auditedAttrResult result), audits⟩ }
    | _ => none
  | .fetched i order =>
    match looping, s.fetches[i]? with
    | true, some ⟨auditor, .sending result, audits⟩ =>
      some ({ s with fetches := s.fetches.eraseIdx i }.takeResult cfg now order auditor audits
        result)
    | _, _ => none

def start : AuditedAttrs where
  data := []
  inProgress := []
  pending := []
  fetches := []
  taken := []
  answers := []
  audits := []

end AuditedAttrs

/-! ## Own attributes -/

/-- A list that was stored.  The lists are numbered as they are stored. -/
structure StoredAttrs where
  attributes : Attributes
  version : Nat

structure AttrRequest where
  /-- How many lists had been stored when the request was put into the channel; a record. -/
  stored : Nat

/-- Where the goroutine of `tryFetchAttributes` is that has filled the slot. -/
inductive AttrFetchStage where
  | querying
  | sending (attributes : Attributes)
  /-- It is about to take its token back. -/
  | returning (failed : Bool)
deriving DecidableEq

structure OwnAttrs where
  attr : StoredAttrs
  reqAttr : Option AttrRequest
  currAttr : Option StoredAttrs
  fetchAttr : Bool
  pushAttr : Bool
  errFetchAttr : Bool
  fetchInProgress : Option AttrFetchStage
  /-- The goroutines of `processAttrReq` that wait for attributes. -/
  waiting : List AttrRequest
  /-- The goroutines of `processAttrReq` that are about to ask for a push. -/
  pushing : Nat
  /-- The goroutines of `tryFetchAttributes` that send on `errFetchAttr`. -/
  reporting : Nat
  /-- The timers that ask for a fetch when they fire. -/
  timers : Nat
  answers : List (AttrRequest × StoredAttrs)
  /-- The updates of the provider that have been processed. -/
  updates : Nat
  /-- Those of them before the last start of a fetch. -/
  started : Nat

inductive OwnAttrEvent where
  | call
  | serve
  /-- A goroutine that waits takes the attributes, or its context is done. -/
  | receive (i : Nat)
  | timeout (i : Nat)
  | push
  /-- The loop takes a signal of `fetchAttr`, of `pushAttr`, of `errFetchAttr`. -/
  | fetchSignal
  | pushSignal
  | errSignal
  | queried (result : Except String Attributes)
  | newAttr
  | release
  | report
  | retry
deriving DecidableEq

namespace OwnAttrs

def fetchAttributes (s : OwnAttrs) : OwnAttrs := { s with fetchAttr := true }

def pushCurrAttributes (s : OwnAttrs) : OwnAttrs := { s with pushAttr := true }

def tryFetchAttributes (s : OwnAttrs) : OwnAttrs :=
  match s.fetchInProgress with
  | none => { s with fetchInProgress := some .querying, started := s.updates }
  | some _ => s

def storeAttributes (s : OwnAttrs) (attributes : Attributes) : OwnAttrs :=
  pushCurrAttributes { s with
    attr := ⟨attributes, s.attr.version + 1⟩
    fetchInProgress := some (.returning false) }

def step (looping : Bool) (s : OwnAttrs) : OwnAttrEvent → Option OwnAttrs
  | .call => if s.reqAttr.isNone then some { s with reqAttr := some ⟨s.attr.version⟩ } else none
  | .serve =>
    match looping, s.reqAttr with
    | true, some req => some { s with reqAttr := none, waiting := s.waiting ++ [req] }
    | _, _ => none
  | .receive i =>
    match s.waiting[i]?, s.currAttr with
    | some req, some attr =>
      some { s with
        currAttr := none
        waiting := s.waiting.eraseIdx i
        pushing := s.pushing + 1
        answers := s.answers ++ [(req, attr)] }
    | _, _ => none
  | .timeout i =>
    if i < s.waiting.length then some { s with waiting := s.waiting.eraseIdx i } else none
  | .push =>
    if 0 < s.pushing then some (pushCurrAttributes { s with pushing := s.pushing - 1 }) else none
  | .fetchSignal =>
    if looping ∧ s.fetchAttr then some (tryFetchAttributes { s with fetchAttr := false })
    else none
  | .pushSignal =>
    if looping ∧ s.pushAttr then
      some { s with pushAttr := false, currAttr := some (s.currAttr.getD s.attr) }
    else none
  | .errSignal =>
    if looping ∧ s.errFetchAttr then
      some { s with errFetchAttr := false, timers := s.timers + 1 }
    else none
  | .queried result =>
    match s.fetchInProgress, result with
    | some .querying, .ok attributes =>
      some { s with fetchInProgress := some (.sending attributes) }
    | some .querying, .error _ => some { s with fetchInProgress := some (.returning true) }
    | _, _ => none
  | .newAttr =>
    match looping, s.fetchInProgress with
    | true, some (.sending attributes) => some (s.storeAttributes attributes)
    | _, _ => none
  | .release =>
    match s.fetchInProgress with
    | some (.returning failed) =>
      some { s with
        fetchInProgress := none
        reporting := s.reporting + if failed then 1 else 0 }
    | _ => none
  | .report =>
    if 0 < s.reporting ∧ s.errFetchAttr = false then
      some { s with reporting := s.reporting - 1, errFetchAttr := true }
    else none
  | .retry =>
    if 0 < s.timers then some (fetchAttributes { s with timers := s.timers - 1 }) else none

/-- A fetch is asked for at once. -/
def start : OwnAttrs where
  attr := ⟨[], 0⟩
  reqAttr := none
  currAttr := none
  fetchAttr := true
  pushAttr := false
  errFetchAttr := false
  fetchInProgress := none
  waiting := []
  pushing := 0
  reporting := 0
  timers := 0
  answers := []
  updates := 0
  started := 0

end OwnAttrs

/-! ## The service -/

/-- How the bus delivers an event. -/
inductive Delivery where
  | value
  | pointer
deriving DecidableEq

inductive AttrBusEvent where
  | trustedAuditorCreated (owner auditor : String)
  | trustedAuditorDeleted (owner auditor : String)
  | providerUpdated (owner : String)
  | other
deriving DecidableEq

inductive AttrServiceStage where
  | looping
  /-- It waits for the fetches of signed attributes, `wg.Wait`. -/
  | waiting
  | done
deriving DecidableEq

structure AttrService where
  stage : AttrServiceStage
  shutdownRequested : Bool
  now : Int
  audited : AuditedAttrs
  own : OwnAttrs

inductive AttrServiceEvent where
  | bus (delivery : Delivery) (ev : AttrBusEvent)
  | shutdownRequest
  | shutdown
  | wait
  | tick (elapsed : Nat)
  | audited (e : AuditedEvent)
  | own (e : OwnAttrEvent)
deriving DecidableEq

def AttrBusEvent.auditorOf (providerAddr : String) : AttrBusEvent → Option String
  | .trustedAuditorCreated owner auditor => if owner = providerAddr then some auditor else none
  | .trustedAuditorDeleted owner auditor => if owner = providerAddr then some auditor else none
  | _ => none

/-- The event says that the provider was updated. -/
def AttrBusEvent.updates (providerAddr : String) : AttrBusEvent → Bool
  | .providerUpdated owner => owner = providerAddr
  | _ => false

namespace AttrService

variable (cfg : AttrServiceConfig)

def record (s : AttrService) (ev : AttrBusEvent) : AttrService :=
  { s with
    audited := { s.audited with
      audits := s.audited.audits ++ (ev.auditorOf cfg.providerAddr).toList }
    own := { s.own with
      updates := s.own.updates + if ev.updates cfg.providerAddr then 1 else 0 } }

def handleEvent (s : AttrService) : Delivery → AttrBusEvent → AttrService
  | .value, .trustedAuditorCreated owner auditor =>
    if owner = cfg.providerAddr then { s with audited := s.audited.purgeAuditor auditor } else s
  | .value, .trustedAuditorDeleted owner auditor =>
    if owner = cfg.providerAddr then { s with audited := s.audited.purgeAuditor auditor } else s
  | .value, .providerUpdated owner =>
    if owner = cfg.providerAddr then { s with own := s.own.fetchAttributes } else s
  | .value, .other => s
  | .pointer, _ => s

def looping (s : AttrService) : Bool := s.stage = .looping

/-- `lc.ShuttingDown()` is closed. -/
def shuttingDown (s : AttrService) : Bool := s.stage ≠ .looping

def step (s : AttrService) : AttrServiceEvent → Option AttrService
  | .bus delivery ev =>
    if s.looping then some ((s.record cfg ev).handleEvent cfg delivery ev) else none
  | .shutdownRequest => some { s with shutdownRequested := true }
  | .shutdown =>
    if s.looping ∧ s.shutdownRequested then some { s with stage := .waiting } else none
  | .wait =>
    if s.stage = .waiting ∧ s.audited.fetches = [] then some { s with stage := .done } else none
  | .tick elapsed => some { s with now := s.now + elapsed }
  | .audited e => (s.audited.step cfg s.now s.looping e).map fun a => { s with audited := a }
  | .own e => (s.own.step s.looping e).map fun o => { s with own := o }

/-- The service as it starts, at any time. -/
def start (now : Int) : AttrService where
  stage := .looping
  shutdownRequested := false
  now := now
  audited := .start
  own := .start

end AttrService

end AkashProvider
