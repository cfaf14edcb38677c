import AkashProvider.Lib.Run
import AkashProvider.Types.Resources

/-!
# The bid engine

The bid engine keeps one monitor for each open order.  It hears of orders by events, and by a
traversal when it starts, which a goroutine makes (`ordersFetcher`).  The traversal starts at a
stored key; when its last page was handled and every order has a monitor, the key of that page is
stored (`processOrdersPage`, `key_stored_after_traversal`).  The process may end at any point, and
only the stored key is left.  The fields after `monitors` are a record.
-/

namespace AkashProvider

variable {κ π : Type}

/-! ## The parts -/

/-- A page of open orders to catch up on.  A key that is nil or empty is `none`. -/
structure OrdersPage (κ : Type) where
  orders : List OrderID
  key : Option κ
  last : Bool
deriving DecidableEq

structure OrdersResponse (κ : Type) where
  orders : List OrderID
  nextKey : Option κ
deriving DecidableEq

inductive OrdersQueryErr where
  | invalidArgument
  | other
deriving DecidableEq

inductive FetcherStage (κ : Type) where
  | loading
  | querying (nextKey : Option κ) (resuming : Bool)
  | sending (page : OrdersPage κ) (pageNextKey : Option κ)
  | returned
deriving DecidableEq

inductive RunStage where
  /-- It waits for the operators. -/
  | waiting
  | looping
  /-- It waits for the monitors to end. -/
  | draining
  | ended
deriving DecidableEq

/-- The monitor of an order, until the service has drained it. -/
structure OrderHandle where
  ref : Nat
  orderID : OrderID
  live : Bool

/-- The monitors of a process. -/
structure OrderMonitors (π : Type) where
  orders : π → Option Nat
  catchupIncomplete : Bool
  handles : List OrderHandle
  nextRef : Nat
  /-- The orders that have been given a monitor. -/
  given : List OrderID
  /-- The orders of pages that have failed to get one. -/
  failed : List OrderID

structure BidService (κ π : Type) where
  ordersNextKey : Option κ
  fetcher : FetcherStage κ
  ordersch : List (OrdersPage κ)
  /-- The context of the fetcher has been canceled. -/
  canceled : Bool
  stage : RunStage
  monitors : OrderMonitors π
  /-- The pages that the node has answered with, each with the key of the next one. -/
  traversal : List (OrdersPage κ × Option κ)
  processed : List (OrdersPage κ)
  /-- The keys that `SetOrdersNextKey` was called with. -/
  setCalls : List (Option κ)

def OrderMonitors.none : OrderMonitors π where
  orders _ := .none
  catchupIncomplete := false
  handles := []
  nextRef := 0
  given := []
  failed := []

def BidService.start (ordersNextKey : Option κ) : BidService κ π where
  ordersNextKey := ordersNextKey
  fetcher := .loading
  ordersch := []
  canceled := false
  stage := .waiting
  monitors := .none
  traversal := []
  processed := []
  setCalls := []

inductive BidServiceEvent (κ : Type) where
  /-- `GetOrdersNextKey` returns. -/
  | loaded (ok : Bool)
  | answered (resp : Except OrdersQueryErr (OrdersResponse κ))
  | sent
  /-- The fetcher sees that its context is done. -/
  | stopped
  | contextDone
  | waited (ok : Bool)
  | shutdown
  /-- A page is taken from the channel.  `created` are the outcomes of `newOrder`, and `persisted`
  that of `SetOrdersNextKey`. -/
  | page (created : List Bool) (persisted : Bool)
  | orderCreated (id : OrderID) (created : Bool)
  | monitorDone (ref : Nat)
  | drained (ref : Nat)
  | restart
deriving DecidableEq

/-! ## Monitors -/

namespace OrderMonitors

variable [DecidableEq π] (orderPath : OrderID → π)

def add (m : OrderMonitors π) (id : OrderID) : OrderMonitors π :=
  { m with
    orders := Function.update m.orders (orderPath id) (some m.nextRef)
    handles := m.handles ++ [⟨m.nextRef, id, true⟩]
    nextRef := m.nextRef + 1
    given := m.given ++ [id] }

def catchUpOrder (m : OrderMonitors π) (id : OrderID) (created : Bool) : OrderMonitors π :=
  if (m.orders (orderPath id)).isSome then m
  else if created then m.add orderPath id
  else { m with catchupIncomplete := true, failed := m.failed ++ [id] }

def catchUpOrders (m : OrderMonitors π) : List OrderID → List Bool → OrderMonitors π
  | [], _ => m
  | id :: ids, created =>
    catchUpOrders (m.catchUpOrder orderPath id (created.headD false)) ids created.tail

def orderCreated (m : OrderMonitors π) (id : OrderID) (created : Bool) : OrderMonitors π :=
  if (m.orders (orderPath id)).isSome then m
  else if created then m.add orderPath id
  else m

def drain (m : OrderMonitors π) (h : OrderHandle) : OrderMonitors π :=
  { m with
    orders := Function.update m.orders (orderPath h.orderID) .none
    handles := m.handles.filter (·.ref ≠ h.ref) }

def done (m : OrderMonitors π) (ref : Nat) : OrderMonitors π :=
  { m with handles := m.handles.map fun h => if h.ref = ref then { h with live := false } else h }

end OrderMonitors

namespace BidService

variable [DecidableEq κ] [DecidableEq π]

/-! ## The fetcher -/

def ordersChCap : Nat := 1000

def loadKey (s : BidService κ π) (ok : Bool) : Option (BidService κ π) :=
  match s.fetcher with
  | .loading =>
    let nextKey := if ok then s.ordersNextKey else none
    some { s with fetcher := .querying nextKey nextKey.isSome }
  | _ => none

/-- The answer to a query of the fetcher. -/
def handleResponse (s : BidService κ π) (resp : Except OrdersQueryErr (OrdersResponse κ)) :
    Option (BidService κ π) :=
  match s.fetcher, resp with
  | .querying _ resuming, .error err =>
    if s.canceled then some { s with fetcher := .returned }
    else if resuming ∧ err = .invalidArgument then
      some { s with fetcher := .querying none false }
    -- it asks again after a while
    else some s
  | .querying nextKey _, .ok resp =>
    let page : OrdersPage κ := ⟨resp.orders, nextKey, resp.nextKey.isNone⟩
    let s := { s with traversal := s.traversal ++ [(page, resp.nextKey)] }
    if s.canceled then some { s with fetcher := .returned }
    else if resp.nextKey.isSome ∧ resp.nextKey = nextKey then
      some { s with fetcher := .returned }
    else some { s with fetcher := .sending page resp.nextKey }
  | _, _ => none

def sendPage (s : BidService κ π) : Option (BidService κ π) :=
  match s.fetcher with
  | .sending page pageNextKey =>
    if s.ordersch.length < ordersChCap then
      some { s with
        ordersch := s.ordersch ++ [page]
        fetcher := if page.last then .returned else .querying pageNextKey false }
    else none
  | _ => none

def stopFetcher (s : BidService κ π) : Option (BidService κ π) :=
  if s.canceled then
    match s.fetcher with
    | .querying _ _ | .sending _ _ => some { s with fetcher := .returned }
    | .loading | .returned => none
  else none

/-! ## The loop -/

variable (orderPath : OrderID → π)

def processOrdersPage (s : BidService κ π) (page : OrdersPage κ) (created : List Bool)
    (persisted : Bool) : BidService κ π :=
  let s := { s with
    monitors := s.monitors.catchUpOrders orderPath page.orders created
    processed := s.processed ++ [page] }
  if ¬ page.last then s
  else if s.monitors.catchupIncomplete then s
  else
    { s with
      setCalls := s.setCalls ++ [page.key]
      ordersNextKey := if persisted then page.key else s.ordersNextKey }

def step (s : BidService κ π) : BidServiceEvent κ → Option (BidService κ π)
  | .loaded ok => s.loadKey ok
  | .answered resp => s.handleResponse resp
  | .sent => s.sendPage
  | .stopped => s.stopFetcher
  | .contextDone => some { s with canceled := true }
  | .waited ok =>
    if s.stage = .waiting then
      some (if ok then { s with stage := .looping }
        else { s with stage := .ended, canceled := true })
    else none
  | .shutdown =>
    if s.stage = .looping then some { s with stage := .draining, canceled := true } else none
  | .page created persisted =>
    match s.stage, s.ordersch with
    | .looping, page :: ordersch =>
      some ({ s with ordersch := ordersch }.processOrdersPage orderPath page created persisted)
    | _, _ => none
  | .orderCreated id created =>
    if s.stage = .looping then
      some { s with monitors := s.monitors.orderCreated orderPath id created }
    else none
  | .monitorDone ref => some { s with monitors := s.monitors.done ref }
  | .drained ref =>
    if s.stage = .looping ∨ s.stage = .draining then
      match s.monitors.handles.find? (·.ref = ref) with
      | some h =>
        if h.live then none else some { s with monitors := s.monitors.drain orderPath h }
      | none => none
    else none
  | .restart => some (.start s.ordersNextKey)

/-- The states that a provider gets to, from any stored key, with any answers and in any order. -/
abbrev Reachable (ordersNextKey : Option κ) (s : BidService κ π) : Prop :=
  Runs (step orderPath) (fun _ _ => True) (.start ordersNextKey) s

end BidService

/-! ## One monitor for an order -/

namespace OrderMonitors

variable {orderPath : OrderID → π} {m : OrderMonitors π}

theorem add_orders [DecidableEq π] (m : OrderMonitors π) (id : OrderID) (p : π) :
    (m.add orderPath id).orders p = if p = orderPath id then some m.nextRef else m.orders p :=
  Function.update_apply _ _ _ _

theorem drain_orders [DecidableEq π] (m : OrderMonitors π) (h : OrderHandle) (p : π) :
    (m.drain orderPath h).orders p = if p = orderPath h.orderID then .none else m.orders p :=
  Function.update_apply _ _ _ _

@[grind cases]
structure Inv (orderPath : OrderID → π) (m : OrderMonitors π) : Prop where
  mapped : ∀ h ∈ m.handles, m.orders (orderPath h.orderID) = some h.ref
  tracked : ∀ p r, m.orders p = some r → ∃ h ∈ m.handles, h.ref = r ∧ orderPath h.orderID = p
  nodup : (m.handles.map (·.ref)).Nodup
  fresh : ∀ h ∈ m.handles, h.ref < m.nextRef
  given : ∀ h ∈ m.handles, h.orderID ∈ m.given
  complete : m.catchupIncomplete = false → m.failed = []

namespace Inv

theorem none : Inv orderPath (.none : OrderMonitors π) := by
  constructor <;> simp [OrderMonitors.none]

variable {h h' : OrderHandle}

theorem eq_of_ref (hI : Inv orderPath m) (hh : h ∈ m.handles) (hh' : h' ∈ m.handles)
    (href : h.ref = h'.ref) : h = h' :=
  List.inj_on_of_nodup_map hI.nodup hh hh' href

theorem done (hI : Inv orderPath m) (ref : Nat) : Inv orderPath (m.done ref) := by
  have hrefs : (m.done ref).handles.map (·.ref) = m.handles.map (·.ref) := by
    rw [OrderMonitors.done, List.map_map]
    exact List.map_congr_left fun h _ => by grind
  constructor
  case tracked =>
    intro p r hp
    obtain ⟨h, hh, href, hpath⟩ := hI.tracked p r hp
    exact ⟨_, List.mem_map_of_mem hh, by grind, by grind⟩
  case nodup => exact hrefs ▸ hI.nodup
  all_goals grind [Inv, OrderMonitors.done]

theorem eq_of_orderID (hI : Inv orderPath m) (hh : h ∈ m.handles) (hh' : h' ∈ m.handles)
    (hid : h.orderID = h'.orderID) : h = h' := by
  grind [eq_of_ref]

variable {id : OrderID}

theorem mem_given (hI : Inv orderPath m) (hpath : Function.Injective orderPath)
    (h : (m.orders (orderPath id)).isSome) : id ∈ m.given := by
  obtain ⟨r, hr⟩ := Option.isSome_iff_exists.mp h
  obtain ⟨h, hh, -, hp⟩ := hI.tracked _ r hr
  exact hpath hp ▸ hI.given h hh

variable [DecidableEq π]

theorem add (hI : Inv orderPath m) (hfree : m.orders (orderPath id) = .none) :
    Inv orderPath (m.add orderPath id) := by
  -- the path is free, so the others are at other paths
  have hnew : ⟨m.nextRef, id, true⟩ ∈ (m.add orderPath id).handles := by simp [OrderMonitors.add]
  constructor
  case nodup => grind [OrderMonitors.add, List.nodup_append]
  all_goals grind [Inv, OrderMonitors.add, add_orders]

theorem catchUpOrder (hI : Inv orderPath m) (id : OrderID) (created : Bool) :
    Inv orderPath (m.catchUpOrder orderPath id created) := by
  simp only [OrderMonitors.catchUpOrder]
  split
  · exact hI
  · split
    · exact hI.add (by simp_all)
    · exact { hI with complete := nofun }

theorem catchUpOrders (ids : List OrderID) : ∀ {m : OrderMonitors π} (created : List Bool),
    Inv orderPath m → Inv orderPath (m.catchUpOrders orderPath ids created) := by
  induction ids with
  | nil => exact fun _ hI => hI
  | cons id ids ih => exact fun created hI => ih created.tail (hI.catchUpOrder id _)

theorem orderCreated (hI : Inv orderPath m) (id : OrderID) (created : Bool) :
    Inv orderPath (m.orderCreated orderPath id created) := by
  simp only [OrderMonitors.orderCreated]
  split
  · exact hI
  · split
    · exact hI.add (by simp_all)
    · exact hI

theorem drain (hI : Inv orderPath m) {h : OrderHandle} (hh : h ∈ m.handles) :
    Inv orderPath (m.drain orderPath h) := by
  constructor
  case nodup => exact hI.nodup.sublist (List.filter_sublist.map _)
  all_goals grind [Inv, OrderMonitors.drain, drain_orders, eq_of_ref]

end Inv

/-- What has been given or has failed stays so. -/
@[grind cases]
structure Grows (m m' : OrderMonitors π) : Prop where
  given : m.given ⊆ m'.given
  failed : m.failed ⊆ m'.failed

theorem Grows.trans {m m' m'' : OrderMonitors π} (h : Grows m m') (h' : Grows m' m'') :
    Grows m m'' :=
  ⟨List.Subset.trans h.given h'.given, List.Subset.trans h.failed h'.failed⟩

variable [DecidableEq π]

theorem catchUpOrder_grows (m : OrderMonitors π) (id : OrderID) (created : Bool) :
    Grows m (m.catchUpOrder orderPath id created) := by
  constructor <;> grind [catchUpOrder, OrderMonitors.add]

theorem orderCreated_grows (m : OrderMonitors π) (id : OrderID) (created : Bool) :
    Grows m (m.orderCreated orderPath id created) := by
  constructor <;> grind [orderCreated, OrderMonitors.add]

theorem catchUpOrders_grows (orderPath : OrderID → π) (ids : List OrderID) :
    ∀ (m : OrderMonitors π) (created : List Bool),
      Grows m (m.catchUpOrders orderPath ids created) := by
  induction ids with
  | nil => exact fun m _ => ⟨fun _ h => h, fun _ h => h⟩
  | cons id ids ih => exact fun m created => (m.catchUpOrder_grows id _).trans (ih _ created.tail)

theorem catchUpOrder_handled (hpath : Function.Injective orderPath) (hI : Inv orderPath m)
    (id : OrderID) (created : Bool) :
    id ∈ (m.catchUpOrder orderPath id created).given ∨
      id ∈ (m.catchUpOrder orderPath id created).failed := by
  grind [catchUpOrder, OrderMonitors.add, Inv.mem_given]

theorem catchUpOrders_handled (hpath : Function.Injective orderPath) (ids : List OrderID) :
    ∀ {m : OrderMonitors π} (created : List Bool), Inv orderPath m → ∀ id ∈ ids,
      id ∈ (m.catchUpOrders orderPath ids created).given ∨
        id ∈ (m.catchUpOrders orderPath ids created).failed := by
  induction ids with
  | nil => exact fun _ _ _ hid => absurd hid List.not_mem_nil
  | cons id ids ih =>
    intro m created hI id' hid'
    rcases List.mem_cons.mp hid' with rfl | hid'
    · have hgrows := catchUpOrders_grows orderPath ids
        (m.catchUpOrder orderPath id' (created.headD false)) created.tail
      exact (catchUpOrder_handled hpath hI id' _).imp (hgrows.given ·) (hgrows.failed ·)
    · exact ih created.tail (hI.catchUpOrder id _) id' hid'

end OrderMonitors

/-! ## The pages -/

namespace BidService

/-- How far a traversal is: the stage of the fetcher, the answers, and the pages that went into the
channel. -/
inductive Fetched : FetcherStage κ → List (OrdersPage κ × Option κ) → List (OrdersPage κ) → Prop
  | loading : Fetched .loading [] []
  | querying {nextKey : Option κ} {resuming : Bool} {t : List (OrdersPage κ × Option κ)}
      (fresh : resuming = true → t = []) (next : ∀ e ∈ t.getLast?, e.2 = nextKey)
      (more : ∀ e ∈ t, e.1.last = false) :
      Fetched (.querying nextKey resuming) t (t.map (·.1))
  | sending {page : OrdersPage κ} {next : Option κ} {t : List (OrdersPage κ × Option κ)}
      (last : page.last = next.isNone) (more : ∀ e ∈ t, e.1.last = false) :
      Fetched (.sending page next) (t ++ [(page, next)]) (t.map (·.1))
  /-- The fetcher gave up.  It may have dropped an answer. -/
  | dropped {t dropped : List (OrdersPage κ × Option κ)} (more : ∀ e ∈ t, e.1.last = false) :
      Fetched .returned (t ++ dropped) (t.map (·.1))
  | complete {page : OrdersPage κ} {t : List (OrdersPage κ × Option κ)}
      (last : page.last = true) (more : ∀ e ∈ t, e.1.last = false) :
      Fetched .returned (t ++ [(page, none)]) (t.map (·.1) ++ [page])

theorem Fetched.eq_of_last {stage : FetcherStage κ} {t : List (OrdersPage κ × Option κ)}
    {processed rest : List (OrdersPage κ)} {page : OrdersPage κ}
    (h : Fetched stage t (processed ++ page :: rest)) (hlast : page.last = true) :
    stage = .returned ∧ rest = [] ∧
      ∃ before, t = before ++ [(page, none)] ∧ processed = before.map (·.1) := by
  have hnot {t : List (OrdersPage κ × Option κ)} (hmore : ∀ e ∈ t, e.1.last = false)
      (hmem : page ∈ t.map (·.1)) : False := by grind
  generalize hsent : processed ++ page :: rest = sent at h
  have hmem : page ∈ sent := hsent ▸ List.mem_append_right _ List.mem_cons_self
  cases h with
  | loading => cases hmem
  | querying _ _ more | sending _ more | dropped more => exact (hnot more hmem).elim
  | @complete page' before _ more =>
    rcases List.eq_nil_or_concat rest with rfl | ⟨rest, x, rfl⟩
    · grind [List.append_inj']
    · -- a page behind it would be the last one
      grind [List.append_inj']

section

variable {t : List (OrdersPage κ × Option κ)} {sent : List (OrdersPage κ)}

theorem Fetched.stop (h : ∀ e ∈ t, e.1.last = false) : Fetched .returned t (t.map (·.1)) := by
  have hdropped : Fetched .returned (t ++ []) (t.map (·.1)) := .dropped h
  rwa [List.append_nil] at hdropped

theorem Fetched.of_loading (h : Fetched .loading t sent) : t = [] ∧ sent = [] := by
  cases h
  exact ⟨rfl, rfl⟩

theorem Fetched.of_querying {nextKey : Option κ} {resuming : Bool}
    (h : Fetched (.querying nextKey resuming) t sent) :
    sent = t.map (·.1) ∧ (resuming = true → t = []) ∧ (∀ e ∈ t.getLast?, e.2 = nextKey) ∧
      ∀ e ∈ t, e.1.last = false := by
  cases h with
  | querying fresh next more => exact ⟨rfl, fresh, next, more⟩

theorem Fetched.of_sending {page : OrdersPage κ} {next : Option κ}
    (h : Fetched (.sending page next) t sent) :
    ∃ before, t = before ++ [(page, next)] ∧ sent = before.map (·.1) ∧
      page.last = next.isNone ∧ ∀ e ∈ before, e.1.last = false := by
  cases h with
  | sending last more => exact ⟨_, rfl, rfl, last, more⟩

end

/-! ## The moves of the service -/

section

variable {orderPath : OrderID → π} {s s' : BidService κ π}

/-- The fetcher moves on without a new page, and nothing else changes. -/
def FetchMove (s s' : BidService κ π) : Prop :=
  ∃ f o, s' = { s with fetcher := f, ordersch := o } ∧
    (Fetched s.fetcher s.traversal (s.processed ++ s.ordersch) →
      Fetched f s.traversal (s.processed ++ o))

theorem loadKey_fetchMove {ok : Bool} (h : s.loadKey ok = some s') : FetchMove s s' := by
  simp only [loadKey] at h
  split at h
  · next hstage =>
    cases h
    refine ⟨_, s.ordersch, rfl, fun hf => ?_⟩
    obtain ⟨ht, hsent⟩ := (hstage ▸ hf).of_loading
    rw [ht, hsent]
    exact .querying (fun _ => rfl) nofun nofun
  · cases h

variable {resp : OrdersResponse κ}

theorem handleResponse_ok [DecidableEq κ] (h : s.handleResponse (.ok resp) = some s') :
    ∃ nextKey resuming f, s.fetcher = .querying nextKey resuming ∧
      s' = { s with
        fetcher := f
        traversal :=
          s.traversal ++ [(⟨resp.orders, nextKey, resp.nextKey.isNone⟩, resp.nextKey)] } ∧
      (f = .returned ∨ f = .sending ⟨resp.orders, nextKey, resp.nextKey.isNone⟩ resp.nextKey) := by
  unfold handleResponse at h
  grind

variable {err : OrdersQueryErr}

/-- An error is no page.  It may be the end, or the key is dropped if nothing has come yet. -/
theorem handleResponse_error [DecidableEq κ] (h : s.handleResponse (.error err) = some s') :
    ∃ nextKey resuming f, s.fetcher = .querying nextKey resuming ∧ s' = { s with fetcher := f } ∧
      (f = .returned ∨ f = s.fetcher ∨ resuming = true ∧ f = .querying none false) := by
  simp only [handleResponse] at h
  split at h
  · next nextKey resuming err' hstage herr =>
    split at h
    · cases h
      exact ⟨nextKey, resuming, _, hstage, rfl, .inl rfl⟩
    · split at h
      · grind
      · cases h
        exact ⟨nextKey, resuming, _, hstage, rfl, .inr (.inl rfl)⟩
  · next hresp => cases hresp
  · cases h

theorem handleResponse_error_fetchMove [DecidableEq κ]
    (h : s.handleResponse (.error err) = some s') : FetchMove s s' := by
  obtain ⟨nextKey, resuming, f, hstage, rfl, hf⟩ := handleResponse_error h
  refine ⟨_, s.ordersch, rfl, fun hfetched => ?_⟩
  obtain ⟨hsent, hfresh, -, hmore⟩ := (hstage ▸ hfetched).of_querying
  rcases hf with rfl | rfl | ⟨hresuming, rfl⟩
  · exact hsent ▸ .stop hmore
  · exact hfetched
  · rw [hsent, hfresh hresuming]
    exact .querying (fun _ => rfl) nofun nofun

theorem handleResponse_ok_fetched [DecidableEq κ] (h : s.handleResponse (.ok resp) = some s')
    (hfetched : Fetched s.fetcher s.traversal (s.processed ++ s.ordersch)) :
    Fetched s'.fetcher s'.traversal (s'.processed ++ s'.ordersch) := by
  obtain ⟨nextKey, resuming, f, hstage, rfl, hf⟩ := handleResponse_ok h
  rw [hstage] at hfetched
  obtain ⟨hsent, -, -, hmore⟩ := hfetched.of_querying
  show Fetched f _ (s.processed ++ s.ordersch)
  rw [hsent]
  rcases hf with rfl | rfl
  · exact .dropped hmore
  · exact .sending rfl hmore

theorem sendPage_fetchMove (h : s.sendPage = some s') : FetchMove s s' := by
  simp only [sendPage] at h
  split at h
  · next page next hstage =>
    obtain ⟨-, ⟨⟩⟩ := Option.ite_none_right_eq_some.mp h
    refine ⟨_, _, rfl, fun hfetched => ?_⟩
    obtain ⟨before, ht, hsent, hlast, hmore⟩ := (hstage ▸ hfetched).of_sending
    rw [ht, ← List.append_assoc, hsent]
    cases next with
    | none =>
      rw [if_pos (show page.last = true from hlast)]
      exact .complete hlast hmore
    | some key =>
      rw [if_neg (by simp [hlast]), show before.map (·.1) ++ [page] =
        (before ++ [(page, some key)]).map (·.1) by simp]
      exact .querying nofun (by simp) (by grind)
  · cases h

theorem stopFetcher_fetchMove (h : s.stopFetcher = some s') : FetchMove s s' := by
  obtain ⟨-, h⟩ := Option.ite_none_right_eq_some.mp h
  split at h <;> cases h
  · next hstage =>
    refine ⟨_, s.ordersch, rfl, fun hfetched => ?_⟩
    obtain ⟨hsent, -, -, hmore⟩ := (hstage ▸ hfetched).of_querying
    exact hsent ▸ .stop hmore
  · next hstage =>
    refine ⟨_, s.ordersch, rfl, fun hfetched => ?_⟩
    obtain ⟨before, ht, hsent, -, hmore⟩ := (hstage ▸ hfetched).of_sending
    rw [ht, hsent]
    exact .dropped hmore

inductive Move [DecidableEq κ] [DecidableEq π] (orderPath : OrderID → π) (s : BidService κ π) :
    BidServiceEvent κ → BidService κ π → Prop
  | fetch {e : BidServiceEvent κ} {s' : BidService κ π} (h : FetchMove s s') : Move orderPath s e s'
  | answer {resp : OrdersResponse κ} {s' : BidService κ π}
      (h : s.handleResponse (.ok resp) = some s') : Move orderPath s (.answered (.ok resp)) s'
  | control {e : BidServiceEvent κ} (canceled : Bool) (stage : RunStage) :
      Move orderPath s e { s with canceled := canceled, stage := stage }
  | page {page : OrdersPage κ} {ordersch : List (OrdersPage κ)} (created : List Bool)
      (persisted : Bool) (h : s.ordersch = page :: ordersch) :
      Move orderPath s (.page created persisted)
        ({ s with ordersch := ordersch }.processOrdersPage orderPath page created persisted)
  | monitors {e : BidServiceEvent κ} {m : OrderMonitors π}
      (inv : OrderMonitors.Inv orderPath s.monitors → OrderMonitors.Inv orderPath m)
      (grows : OrderMonitors.Grows s.monitors m) :
      Move orderPath s e { s with monitors := m }
  | restart : Move orderPath s .restart (.start s.ordersNextKey)

theorem step_move [DecidableEq κ] [DecidableEq π] {e : BidServiceEvent κ}
    (h : s.step orderPath e = some s') : Move orderPath s e s' := by
  cases e with
  | loaded ok => exact .fetch (loadKey_fetchMove h)
  | answered resp =>
    cases resp with
    | ok resp => exact .answer h
    | error err => exact .fetch (handleResponse_error_fetchMove h)
  | sent => exact .fetch (sendPage_fetchMove h)
  | stopped => exact .fetch (stopFetcher_fetchMove h)
  | contextDone =>
    cases h
    exact .control true s.stage
  | waited ok =>
    obtain ⟨-, ⟨⟩⟩ := Option.ite_none_right_eq_some.mp h
    cases ok with
    | true => exact .control s.canceled .looping
    | false => exact .control true .ended
  | shutdown =>
    obtain ⟨-, ⟨⟩⟩ := Option.ite_none_right_eq_some.mp h
    exact .control true .draining
  | page created persisted =>
    simp only [step] at h
    split at h
    · next hch =>
      cases h
      exact .page created persisted hch
    · cases h
  | orderCreated id created =>
    obtain ⟨-, ⟨⟩⟩ := Option.ite_none_right_eq_some.mp h
    exact .monitors (fun hI => hI.orderCreated id created)
      (s.monitors.orderCreated_grows id created)
  | monitorDone ref =>
    cases h
    exact .monitors (fun hI => hI.done ref) ⟨fun _ h => h, fun _ h => h⟩
  | drained ref =>
    obtain ⟨-, h⟩ := Option.ite_none_right_eq_some.mp h
    split at h
    · next hfind =>
      obtain ⟨-, ⟨⟩⟩ := Option.ite_none_left_eq_some.mp h
      exact .monitors (fun hI => hI.drain (List.mem_of_find?_eq_some hfind))
        ⟨fun _ h => h, fun _ h => h⟩
    · cases h
  | restart =>
    cases h
    exact .restart

end

/-! ## When a key is stored -/

section

variable {orderPath : OrderID → π} {s s' : BidService κ π}

@[grind cases]
structure Inv (orderPath : OrderID → π) (s : BidService κ π) : Prop where
  fetched : Fetched s.fetcher s.traversal (s.processed ++ s.ordersch)
  monitors : OrderMonitors.Inv orderPath s.monitors
  handled : ∀ page ∈ s.processed, ∀ id ∈ page.orders, id ∈ s.monitors.given ∨ id ∈ s.monitors.failed

theorem Inv.start (ordersNextKey : Option κ) :
    Inv orderPath (.start ordersNextKey : BidService κ π) where
  fetched := .loading
  monitors := .none
  handled _ h := absurd h List.not_mem_nil

/-- There is one live monitor for an order. -/
def OneMonitor (s : BidService κ π) : Prop :=
  ∀ h ∈ s.monitors.handles, ∀ h' ∈ s.monitors.handles, h.live = true → h'.live = true →
    h.orderID = h'.orderID → h = h'

/-- All pages of the traversal have been handled, the last one among them, and all their orders have
been given monitors. -/
@[grind cases]
structure TraversalHandled (s : BidService κ π) (key : Option κ) : Prop where
  last : ∃ before page, s.traversal = before ++ [(page, none)] ∧ page.key = key
  processed : s.processed = s.traversal.map (·.1)
  given : ∀ e ∈ s.traversal, ∀ id ∈ e.1.orders, id ∈ s.monitors.given
  none_failed : s.monitors.failed = []

theorem Inv.traversalHandled (hI : Inv orderPath s) {page : OrdersPage κ}
    (hpage : page ∈ s.processed) (hlast : page.last = true) (hfailed : s.monitors.failed = []) :
    TraversalHandled s page.key := by
  obtain ⟨before, after, hprocessed⟩ := List.append_of_mem hpage
  have hfetched := hI.fetched
  rw [hprocessed, List.append_assoc, List.cons_append] at hfetched
  obtain ⟨-, hrest, pages, ht, hbefore⟩ := hfetched.eq_of_last hlast
  have hpages : s.processed = s.traversal.map (·.1) := by simp_all
  refine ⟨⟨pages, page, ht, rfl⟩, hpages, fun e he id hid => ?_, hfailed⟩
  have hhandled := hI.handled e.1 (hpages ▸ List.mem_map_of_mem he) id hid
  simpa [hfailed] using hhandled

variable [DecidableEq π]

theorem processOrdersPage_cases (orderPath : OrderID → π) (s : BidService κ π)
    (page : OrdersPage κ) (created : List Bool) (persisted : Bool) :
    ∃ key calls, s.processOrdersPage orderPath page created persisted =
        { s with
          monitors := s.monitors.catchUpOrders orderPath page.orders created
          processed := s.processed ++ [page]
          ordersNextKey := key
          setCalls := calls } ∧
      (calls = s.setCalls ∨ calls = s.setCalls ++ [page.key] ∧ page.last = true ∧
        (s.monitors.catchUpOrders orderPath page.orders created).catchupIncomplete = false) := by
  simp only [processOrdersPage]
  split
  · exact ⟨_, _, rfl, .inl rfl⟩
  · split
    · exact ⟨_, _, rfl, .inl rfl⟩
    · exact ⟨_, _, rfl, .inr ⟨rfl, by simp_all⟩⟩

theorem Inv.page (hpath : Function.Injective orderPath) (hI : Inv orderPath s)
    {page : OrdersPage κ} {ordersch : List (OrdersPage κ)} (hch : s.ordersch = page :: ordersch)
    (created : List Bool) (persisted : Bool) :
    Inv orderPath
      ({ s with ordersch := ordersch }.processOrdersPage orderPath page created persisted) := by
  obtain ⟨key, calls, heq, -⟩ :=
    processOrdersPage_cases orderPath { s with ordersch := ordersch } page created persisted
  rw [heq]
  refine ⟨by grind, hI.monitors.catchUpOrders page.orders created, fun p hp id hid => ?_⟩
  have hgrows := OrderMonitors.catchUpOrders_grows orderPath page.orders s.monitors created
  rcases List.mem_append.mp hp with hp | hp
  · exact (hI.handled p hp id hid).imp (hgrows.given ·) (hgrows.failed ·)
  · obtain rfl := List.mem_singleton.mp hp
    exact OrderMonitors.catchUpOrders_handled hpath p.orders created hI.monitors id hid

variable [DecidableEq κ]

theorem Inv.step (hpath : Function.Injective orderPath) (s : BidService κ π)
    (e : BidServiceEvent κ) (s' : BidService κ π) (h : s.step orderPath e = some s')
    (hI : Inv orderPath s) : Inv orderPath s' := by
  cases step_move h with
  | fetch hmove =>
    obtain ⟨f, o, rfl, hfetched⟩ := hmove
    exact ⟨hfetched hI.fetched, hI.monitors, hI.handled⟩
  | answer hanswer =>
    have hfetched := handleResponse_ok_fetched hanswer hI.fetched
    obtain ⟨nextKey, resuming, f, -, rfl, -⟩ := handleResponse_ok hanswer
    exact ⟨hfetched, hI.monitors, hI.handled⟩
  | control => exact ⟨hI.fetched, hI.monitors, hI.handled⟩
  | page created persisted hch => exact hI.page hpath hch created persisted
  | monitors inv grows =>
    exact ⟨hI.fetched, inv hI.monitors, fun p hp id hid =>
      (hI.handled p hp id hid).imp (grows.given ·) (grows.failed ·)⟩
  | restart => exact .start _

theorem step_traversal {e : BidServiceEvent κ} (h : s.step orderPath e = some s')
    (hpage : ∀ resp, e ≠ .answered (.ok resp)) (hrestart : e ≠ .restart) :
    s'.traversal = s.traversal := by
  cases step_move h with
  | fetch hmove =>
    obtain ⟨f, o, rfl, -⟩ := hmove
    rfl
  | answer => exact absurd rfl (hpage _)
  | control => rfl
  | @page page ordersch created persisted =>
    obtain ⟨key, calls, heq, -⟩ := processOrdersPage_cases orderPath
      { s with ordersch := ordersch } page created persisted
    rw [heq]
  | monitors => rfl
  | restart => exact absurd rfl hrestart

theorem Reachable.inv (hpath : Function.Injective orderPath) {ordersNextKey : Option κ}
    (h : Reachable orderPath ordersNextKey s) : Inv orderPath s :=
  Runs.invariant (fun s e s' _ => Inv.step hpath s e s') h (.start ordersNextKey)

/-- A key is stored when all pages of the traversal have been handled, and there is never more
than one live monitor for an order. -/
theorem key_stored_after_traversal (hpath : Function.Injective orderPath)
    (ordersNextKey : Option κ) (s : BidService κ π) (h : Reachable orderPath ordersNextKey s) :
    OneMonitor s ∧ ∀ e s' key, s.step orderPath e = some s' →
      s'.setCalls = s.setCalls ++ [key] → TraversalHandled s' key := by
  have hI := h.inv hpath
  refine ⟨fun h hh h' hh' _ _ hid => hI.monitors.eq_of_orderID hh hh' hid, ?_⟩
  intro e s' key hstep hcall
  have hI' := hI.step hpath s e s' hstep
  cases step_move hstep with
  | fetch hmove =>
    obtain ⟨f, o, rfl, -⟩ := hmove
    simp at hcall
  | answer hanswer =>
    obtain ⟨nextKey, resuming, f, -, rfl, -⟩ := handleResponse_ok hanswer
    simp at hcall
  | @page page ordersch created persisted hch =>
    obtain ⟨stored, calls, heq, hcalls⟩ := processOrdersPage_cases orderPath
      { s with ordersch := ordersch } page created persisted
    rw [heq] at hcall hI' ⊢
    rcases hcalls with rfl | ⟨rfl, hlast, hcomplete⟩
    · simp at hcall
    · obtain rfl : page.key = key := by simpa using hcall
      grind [Inv.traversalHandled]
  | restart => simp [BidService.start] at hcall
  | control | monitors => simp at hcall

end

/-- The stored key was rejected, and the one page that there is from the beginning is in the
channel. -/
def queuedPage : BidService Nat OrderID :=
  { BidService.start (some 7) with
    fetcher := .returned
    ordersch := [⟨[⟨"owner", 42, 1, 1⟩], none, true⟩]
    stage := .looping
    traversal := [(⟨[⟨"owner", 42, 1, 1⟩], none, true⟩, none)] }

theorem queuedPage_reachable : Reachable id (some 7) queuedPage :=
  Runs.of_foldlM [.loaded true, .waited true, .answered (.error .invalidArgument),
    .answered (.ok ⟨[⟨"owner", 42, 1, 1⟩], none⟩), .sent] _ _ rfl

theorem key_stored_after_rejection :
    ∃ s', queuedPage.step id (.page [true] true) = some s' ∧ s'.ordersNextKey = none ∧
      TraversalHandled s' none :=
  ⟨_, rfl, rfl, (key_stored_after_traversal Function.injective_id (some 7) queuedPage
    queuedPage_reachable).2 (.page [true] true) _ none rfl rfl⟩

end BidService

end AkashProvider
