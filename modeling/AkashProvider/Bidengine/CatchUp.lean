import AkashProvider.Bidengine.Service

/-!
# What a restart catches up on

After a restart the traversal is the only way back to the orders that were open before.  It starts
at the stored key, the key of the last page of an earlier one, so open orders on the pages before
are lost (`restart_loses_open_order`).  `catch_up_covers` says that this is all.
-/

namespace AkashProvider

/-! ## The chain -/

section

variable {κ : Type} [LinearOrder κ] (pos : OrderID → κ)

/-- The order does not lie before the key. -/
def NotBefore (key : Option κ) (id : OrderID) : Prop := ∀ k ∈ key, k ≤ pos id

/-- The order lies before the key of the next page, if there is one. -/
def BeforeNext (nextKey : Option κ) (id : OrderID) : Prop := ∀ k ∈ nextKey, pos id < k

instance (key : Option κ) : DecidablePred (NotBefore pos key) := fun id =>
  inferInstanceAs (Decidable (∀ k ∈ key, k ≤ pos id))

instance (nextKey : Option κ) : DecidablePred (BeforeNext pos nextKey) := fun id =>
  inferInstanceAs (Decidable (∀ k ∈ nextKey, pos id < k))

/-- A page of the open orders, from a key on: it has all orders up to its next key, in the order of
their keys. -/
@[grind cases, mk_iff]
structure Lists (openOrders : List OrderID) (key : Option κ) (resp : OrdersResponse κ) : Prop where
  complete : resp.orders.Perm
    (openOrders.filter fun id => NotBefore pos key id ∧ BeforeNext pos resp.nextKey id)
  sorted : resp.orders.Pairwise fun a b => pos a < pos b
  limit : resp.orders.length ≤ BidService.ordersChCap
  forward : ∀ k ∈ key, ∀ k' ∈ resp.nextKey, k < k'

instance (openOrders : List OrderID) (key : Option κ) (resp : OrdersResponse κ) :
    Decidable (Lists pos openOrders key resp) :=
  decidable_of_iff' _ (lists_iff ..)

theorem Lists.mem {pos : OrderID → κ} {openOrders : List OrderID} {key : Option κ}
    {resp : OrdersResponse κ} (h : Lists pos openOrders key resp) {id : OrderID}
    (hopen : id ∈ openOrders) (hkey : NotBefore pos key id)
    (hnext : BeforeNext pos resp.nextKey id) : id ∈ resp.orders :=
  h.complete.mem_iff.mpr (List.mem_filter.mpr ⟨hopen, decide_eq_true ⟨hkey, hnext⟩⟩)

end

/-! ## The provider and the chain -/

/-- A provider, over all its runs, and the open orders of the chain. -/
structure BidWorld (κ π : Type) where
  svc : BidService κ π
  openOrders : List OrderID
  /-- The orders that were open at every query of the traversal that has been answered. -/
  steady : List OrderID

inductive BidWorldEvent (κ : Type) where
  | service (e : BidServiceEvent κ)
  | opened (id : OrderID)
  | closed (id : OrderID)

namespace BidWorld

variable {κ π : Type} [LinearOrder κ] [DecidableEq π]

def start (ordersNextKey : Option κ) (openOrders : List OrderID) : BidWorld κ π :=
  ⟨.start ordersNextKey, openOrders, []⟩

def steadyAfter (w : BidWorld κ π) : BidServiceEvent κ → List OrderID
  | .answered (.ok _) =>
    if w.svc.traversal = [] then w.openOrders else w.steady.filter (· ∈ w.openOrders)
  | .restart => []
  | _ => w.steady

def step (orderPath : OrderID → π) (w : BidWorld κ π) : BidWorldEvent κ → Option (BidWorld κ π)
  | .service e =>
    (w.svc.step orderPath e).map fun svc => { w with svc := svc, steady := w.steadyAfter e }
  | .opened id => some { w with openOrders := w.openOrders ++ [id] }
  | .closed id => some { w with openOrders := w.openOrders.filter (· ≠ id) }

/-- The key of a query that is under way. -/
def requested : FetcherStage κ → Option (Option κ)
  | .querying nextKey _ => some nextKey
  | .loading | .sending _ _ | .returned => none

def answer : BidWorldEvent κ → Option (OrdersResponse κ)
  | .service (.answered (.ok resp)) => some resp
  | _ => none

/-- The node answers with pages of the open orders. -/
def NodeLists (pos : OrderID → κ) (w : BidWorld κ π) (e : BidWorldEvent κ) : Prop :=
  ∀ resp ∈ answer e, ∀ key ∈ requested w.svc.fetcher, Lists pos w.openOrders key resp

instance (pos : OrderID → κ) (w : BidWorld κ π) : DecidablePred (NodeLists pos w) := fun e =>
  inferInstanceAs (Decidable (∀ resp ∈ answer e, ∀ key ∈ requested w.svc.fetcher,
    Lists pos w.openOrders key resp))

/-- The worlds that a provider gets to, from any stored key and any open orders. -/
abbrev Reachable (orderPath : OrderID → π) (pos : OrderID → κ) (ordersNextKey : Option κ)
    (openOrders : List OrderID) (w : BidWorld κ π) : Prop :=
  Runs (step orderPath) (NodeLists pos) (.start ordersNextKey openOrders) w

/-! ## What a traversal covers -/

variable {orderPath : OrderID → π} {pos : OrderID → κ} {w w' : BidWorld κ π}

/-- The steady orders between the first key and the next one are on the pages. -/
def Covers (pos : OrderID → κ) (t : List (OrdersPage κ × Option κ)) (steady : List OrderID) :
    Prop :=
  ∀ id ∈ steady, (∀ e ∈ t.head?, NotBefore pos e.1.key id) →
    (∀ e ∈ t.getLast?, BeforeNext pos e.2 id) → t ≠ [] → ∃ e ∈ t, id ∈ e.1.orders

@[grind cases]
structure Inv (orderPath : OrderID → π) (pos : OrderID → κ) (w : BidWorld κ π) : Prop where
  svc : BidService.Inv orderPath w.svc
  covers : Covers pos w.svc.traversal w.steady

variable {key : Option κ} {resp : OrdersResponse κ}

theorem Covers.append {t : List (OrdersPage κ × Option κ)} {steady openOrders : List OrderID}
    (h : Covers pos t steady) (hne : t ≠ []) (hnext : ∀ e ∈ t.getLast?, e.2 = key)
    (hlists : Lists pos openOrders key resp) (last : Bool) :
    Covers pos (t ++ [(⟨resp.orders, key, last⟩, resp.nextKey)])
      (steady.filter (· ∈ openOrders)) := by
  intro id hid hfirst hlast _
  obtain ⟨hsteady, hopen⟩ := List.mem_filter.mp hid
  by_cases hpage : NotBefore pos key id
  · grind [Lists.mem]
  · -- it lies before the page, so it is on an earlier one
    have hfirst' : ∀ e ∈ t.head?, NotBefore pos e.1.key id := by
      rwa [List.head?_append_of_ne_nil _ hne] at hfirst
    have hlast' : ∀ e ∈ t.getLast?, BeforeNext pos e.2 id := by
      intro e he k hk
      grind [NotBefore, Option.mem_unique]
    obtain ⟨e, he, hmem⟩ := h id hsteady hfirst' hlast' hne
    exact ⟨e, List.mem_append_left _ he, hmem⟩

theorem Covers.singleton {openOrders : List OrderID} (hlists : Lists pos openOrders key resp)
    (last : Bool) :
    Covers pos [(⟨resp.orders, key, last⟩, resp.nextKey)] openOrders := by
  intro id hid hfirst hlast _
  grind [Lists.mem]

/-- An answer with a page is one more page, and the orders that are closed are no longer steady. -/
theorem Inv.answered (hI : Inv orderPath pos w)
    (hok : NodeLists pos w (.service (.answered (.ok resp)))) {svc : BidService κ π}
    (hstep : w.svc.step orderPath (.answered (.ok resp)) = some svc) :
    Covers pos svc.traversal (w.steadyAfter (.answered (.ok resp))) := by
  obtain ⟨nextKey, resuming, f, hstage, rfl, -⟩ := BidService.handleResponse_ok hstep
  have hlists : Lists pos w.openOrders nextKey resp := hok resp rfl nextKey (by rw [hstage]; rfl)
  have hfetched := hI.svc.fetched
  rw [hstage] at hfetched
  obtain ⟨-, -, hnext, -⟩ := hfetched.of_querying
  simp only [steadyAfter]
  split
  · next hempty =>
    rw [hempty]
    exact .singleton hlists _
  · next hne => exact hI.covers.append hne hnext hlists _

theorem Inv.step (hpath : Function.Injective orderPath) (w : BidWorld κ π) (e : BidWorldEvent κ)
    (w' : BidWorld κ π) (hok : NodeLists pos w e) (hstep : w.step orderPath e = some w')
    (hI : Inv orderPath pos w) : Inv orderPath pos w' := by
  cases e with
  | opened id =>
    cases hstep
    exact ⟨hI.svc, hI.covers⟩
  | closed id =>
    cases hstep
    exact ⟨hI.svc, hI.covers⟩
  | service e =>
    obtain ⟨svc, hsvc, rfl⟩ := Option.map_eq_some_iff.mp hstep
    refine ⟨hI.svc.step hpath w.svc e svc hsvc, ?_⟩
    -- the traversal and the steady orders change together
    have hsame (hpage : ∀ resp, e ≠ .answered (.ok resp)) (hrestart : e ≠ .restart)
        (hsteady : w.steadyAfter e = w.steady) :
        Covers pos svc.traversal (w.steadyAfter e) := by
      rw [BidService.step_traversal hsvc hpage hrestart, hsteady]
      exact hI.covers
    cases e with
    | answered resp =>
      cases resp with
      | ok resp => exact hI.answered hok hsvc
      | error err => exact hsame (by simp) (by simp) rfl
    | restart => exact fun id hid => absurd hid List.not_mem_nil
    | _ => exact hsame (by simp) (by simp) rfl

/-- The last page has been processed, and no order has failed. -/
def Complete (s : BidService κ π) : Prop :=
  (∃ page ∈ s.processed, page.last = true) ∧ s.monitors.failed = []

/-- Two orders of a deployment, listed by their numbers. -/
def orderOf (oseq : UInt32) : OrderID := ⟨"owner", 42, 1, oseq⟩

def byOseq (id : OrderID) : Nat := id.oseq.toNat

/-- A first run lists both orders on two pages and stores the key of the second.  The second run
starts there and is complete. -/
def twoRuns : List (BidWorldEvent Nat) :=
  [.service (.loaded true), .service (.waited true),
    .service (.answered (.ok ⟨[orderOf 1], some 2⟩)), .service .sent,
    .service (.answered (.ok ⟨[orderOf 2], none⟩)), .service .sent,
    .service (.page [true] true), .service (.page [true] true), .service .restart,
    .service (.loaded true), .service (.waited true),
    .service (.answered (.ok ⟨[orderOf 2], none⟩)), .service .sent,
    .service (.page [true] true)]

def afterTwoRuns : BidWorld Nat OrderID where
  svc :=
    { ordersNextKey := some 2
      fetcher := .returned
      ordersch := []
      canceled := false
      stage := .looping
      monitors := .add id .none (orderOf 2)
      traversal := [(⟨[orderOf 2], some 2, true⟩, none)]
      processed := [⟨[orderOf 2], some 2, true⟩]
      setCalls := [some 2] }
  openOrders := [orderOf 1, orderOf 2]
  steady := [orderOf 1, orderOf 2]

theorem afterTwoRuns_reachable :
    Reachable id byOseq none [orderOf 1, orderOf 2] afterTwoRuns :=
  Runs.of_guarded twoRuns _ _ rfl

end BidWorld

end AkashProvider
