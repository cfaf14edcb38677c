import AkashProvider.Lib.Reaches
import Mathlib.Tactic.Common

/-!
# The inventory client

A connector streams inventories of the cluster into a channel that all connectors share.  When the
service is added, or some time after a connector has ended, it is cancelled, the channel is
emptied and another one is started.  An inventory is sent to one subscriber after the other, each
through a channel for one value, and in the meantime the loop does nothing else.  When the service
is deleted and the reconnect timer does not run, the loop waits for ever (`deleted_blocks`).  A
cancelled connector reports its end after the channel was emptied (`late_message_applied`).
-/

namespace AkashProvider

inductive ReconnectTimer where
  | stopped
  | running
  /-- Its value has not been read. -/
  | expired
deriving DecidableEq

/-- A message of a connector: a cluster, or that the connection is lost. -/
structure InventoryMessage (α : Type) where
  connector : Nat
  cluster : Option α

/-- The state of `discovery`.  Connectors are numbered as they are started, subscribers as they
subscribe.  `source`, `applied` and `forwarded` are a record that no step reads. -/
structure InventoryClient (α : Type) where
  hasService : Bool
  timer : ReconnectTimer
  started : Nat
  /-- The connectors that have not returned from `inventoryRun`. -/
  connectors : List Nat
  /-- `ctrlexitch` is not nil. -/
  watching : Bool
  /-- It has a value. -/
  exited : Bool
  invch : Option (InventoryMessage α)
  isConnected : Bool
  inv : α
  /-- The channels of the subscribers, with what is in them. -/
  subs : List (Option α)
  /-- The subscribers that the event in hand is still to be sent to. -/
  sends : List Nat
  /-- The loop waits for the value of a timer that does not run. -/
  blocked : Bool
  /-- The connector of the message that `inv` is built from. -/
  source : Option Nat
  /-- For each message that was applied, its connector and the one that was started last. -/
  applied : List (Nat × Nat)
  /-- The same for each inventory that was forwarded. -/
  forwarded : List (Option Nat × Nat)

inductive InventoryEvent (α : Type) where
  /-- The service is added.  The flag says if a connector can be created. -/
  | added (ok : Bool)
  | deleted
  /-- The value of `ctrlexitch` is received. -/
  | exit
  /-- The value of the timer is received. -/
  | reconnect (ok : Bool)
  | message
  | subscribe
  /-- The inventory goes into the channel of the next subscriber. -/
  | sent
  /-- A subscriber takes what is in its channel; it is always ready to. -/
  | take (subscriber : Nat)
  | timerExpires
  /-- The context of the last connector ends. -/
  | contextDone
  /-- A connector sends what it has received, also when it is cancelled. -/
  | send (connector : Nat) (cluster : Option α)
  /-- `inventoryRun` returns, without a message if there is no connection to close. -/
  | returns (connector : Nat) (dialed : Bool)

namespace InventoryClient

variable {α : Type} (empty : α)

def start : InventoryClient α :=
  ⟨false, .stopped, 0, [], false, false, none, false, empty, [], [], false, none, [], []⟩

/-- The last connector is cancelled; it may return later. -/
def startConnector (s : InventoryClient α) (ok : Bool) : InventoryClient α :=
  if !s.hasService then s
  else
    let s := { s with watching := ok, exited := false, invch := none, isConnected := false }
    if ok then { s with started := s.started + 1, connectors := (s.started + 1) :: s.connectors }
    else { s with timer := .running }

def apply (s : InventoryClient α) (m : InventoryMessage α) : InventoryClient α :=
  { s with
    invch := none
    isConnected := true
    inv := m.cluster.getD empty
    source := some m.connector
    applied := s.applied ++ [(m.connector, s.started)]
    sends := List.range s.subs.length }

/-- A pass of the loop, up to the sends it makes. -/
def handle (s : InventoryClient α) : InventoryEvent α → Option (InventoryClient α)
  | .added ok => some ({ s with hasService := true }.startConnector ok)
  | .deleted =>
    -- `Stop` returns false unless the timer runs, and then its channel is read.
    some { s with
      hasService := false
      blocked := s.timer != .running
      timer := .stopped
      inv := empty
      source := none }
  | .exit =>
    if s.watching && s.exited then some { s with exited := false, timer := .running } else none
  | .reconnect ok =>
    if s.timer = .expired then some ({ s with timer := .stopped }.startConnector ok) else none
  | .message => s.invch.map (s.apply empty)
  | .subscribe =>
    some { s with
      subs := s.subs ++ [none]
      sends := if s.isConnected then [s.subs.length] else [] }
  | _ => none

def send (s : InventoryClient α) : Option (InventoryClient α) :=
  match s.sends with
  | [] => none
  | i :: rest =>
    match s.subs[i]? with
    | some none =>
      some { s with
        subs := s.subs.set i (some s.inv)
        sends := rest
        forwarded := s.forwarded ++ [(s.source, s.started)] }
    | _ => none

/-- The loop has handled an event and takes the next. -/
def Idle (s : InventoryClient α) : Prop :=
  s.blocked = false ∧ s.sends = []

instance (s : InventoryClient α) : Decidable s.Idle :=
  inferInstanceAs (Decidable (_ ∧ _))

def step (s : InventoryClient α) (e : InventoryEvent α) : Option (InventoryClient α) :=
  match e with
  | .sent => s.send
  | .take i =>
    match s.subs[i]? with
    | some (some _) => some { s with subs := s.subs.set i none }
    | _ => none
  | .timerExpires => if s.timer = .running then some { s with timer := .expired } else none
  | .contextDone => if s.watching then some { s with exited := true } else none
  | .send connector cluster =>
    if connector ∈ s.connectors ∧ s.invch = none then
      some { s with invch := some ⟨connector, cluster⟩ }
    else none
  | .returns connector dialed =>
    if connector ∈ s.connectors then
      some { s with
        connectors := s.connectors.filter (· ≠ connector)
        invch := if dialed then s.invch.or (some ⟨connector, none⟩) else s.invch }
    else none
  | e => if s.Idle then s.handle empty e else none

variable {empty} {s s' : InventoryClient α} {e : InventoryEvent α}

@[simp] theorem startConnector_kept (ok : Bool) : (s.startConnector ok).subs = s.subs ∧
    (s.startConnector ok).sends = s.sends ∧ (s.startConnector ok).blocked = s.blocked := by
  unfold startConnector
  split
  · exact ⟨rfl, rfl, rfl⟩
  · cases ok <;> exact ⟨rfl, rfl, rfl⟩

theorem send_cases (h : s.send = some s') : ∃ i rest, s.sends = i :: rest ∧
    s.subs[i]? = some none ∧ s' = { s with
      subs := s.subs.set i (some s.inv)
      sends := rest
      forwarded := s.forwarded ++ [(s.source, s.started)] } := by
  unfold send at h
  split at h
  · cases h
  · next i rest hsends =>
    split at h
    · next hempty =>
      injection h with h
      exact ⟨i, rest, hsends, hempty, h.symm⟩
    · cases h

theorem take_cases {i : Nat} (h : step empty s (.take i) = some s') :
    s' = { s with subs := s.subs.set i none } := by
  simp only [step] at h
  split at h
  · injection h with h
    exact h.symm
  · cases h

/-! ## The loop goes on -/

/-- Nothing but sends is left to do for the event in hand, each to a subscriber. -/
structure Live (s : InventoryClient α) : Prop where
  runs : s.blocked = false
  sends : ∀ i ∈ s.sends, i < s.subs.length

/-- The service is deleted only while the timer runs. -/
def Drains (s : InventoryClient α) : InventoryEvent α → Prop
  | .deleted => s.timer = .running
  | _ => True

theorem Live.handle (h : Live s) (hok : Drains s e) (hstep : s.handle empty e = some s') :
    Live s' := by
  obtain ⟨hruns, hsends⟩ := h
  cases e with
  | added ok =>
    injection hstep with hstep
    subst hstep
    exact ⟨by simpa using hruns, by simpa using hsends⟩
  | reconnect ok =>
    obtain ⟨-, ⟨⟩⟩ := Option.ite_none_right_eq_some.mp hstep
    exact ⟨by simpa using hruns, by simpa using hsends⟩
  | deleted =>
    injection hstep with hstep
    subst hstep
    exact ⟨bne_eq_false_iff_eq.mpr hok, hsends⟩
  | exit =>
    obtain ⟨-, ⟨⟩⟩ := Option.ite_none_right_eq_some.mp hstep
    exact ⟨hruns, hsends⟩
  | message =>
    obtain ⟨m, -, rfl⟩ := Option.map_eq_some_iff.mp hstep
    exact ⟨hruns, fun i hi => List.mem_range.mp hi⟩
  | subscribe =>
    injection hstep with hstep
    subst hstep
    refine ⟨hruns, fun i hi => ?_⟩
    cases hconnected : s.isConnected <;> simp_all
  | sent | take | timerExpires | contextDone | send | returns => cases hstep

theorem Live.step (h : Live s) (hok : Drains s e) (hstep : step empty s e = some s') :
    Live s' := by
  cases e with
  | sent =>
    obtain ⟨i, rest, hsends, -, rfl⟩ := send_cases hstep
    refine ⟨h.runs, fun j hj => ?_⟩
    rw [List.length_set]
    exact h.sends j (by simp [hsends, hj])
  | take i =>
    cases take_cases hstep
    exact ⟨h.runs, by simpa using h.sends⟩
  | timerExpires | contextDone | send | returns =>
    obtain ⟨-, ⟨⟩⟩ := Option.ite_none_right_eq_some.mp hstep
    exact ⟨h.runs, h.sends⟩
  | added | deleted | exit | reconnect | message | subscribe =>
    obtain ⟨-, hstep⟩ := Option.ite_none_right_eq_some.mp hstep
    exact h.handle hok hstep

/-- Each subscriber takes what is in its channel, and the next value is sent to it. -/
theorem Live.reaches_idle (sends : List Nat) : ∀ {s : InventoryClient α}, Live s →
    s.sends = sends → Reaches (InventoryClient.step empty) s Idle := by
  induction sends with
  | nil => exact fun h hsends => .here ⟨h.runs, hsends⟩
  | cons i rest ih =>
    intro s h hsends
    have hsent : ∀ t : InventoryClient α, Live t → t.sends = i :: rest → t.subs[i]? = some none →
        Reaches (InventoryClient.step empty) t Idle := by
      intro t ht htsends hempty
      have hstep : t.step empty .sent = some { t with
          subs := t.subs.set i (some t.inv)
          sends := rest
          forwarded := t.forwarded ++ [(t.source, t.started)] } := by
        simp [InventoryClient.step, send, htsends, hempty]
      exact .next .sent hstep (ih (ht.step (e := .sent) trivial hstep) rfl)
    have hi : i < s.subs.length := h.sends i (by simp [hsends])
    obtain hsub | ⟨inv, hsub⟩ : s.subs[i]? = some none ∨ ∃ inv, s.subs[i]? = some (some inv) := by
      rw [List.getElem?_eq_getElem hi]
      cases s.subs[i] <;> simp
    · exact hsent s h hsends hsub
    · have hstep : s.step empty (.take i) = some { s with subs := s.subs.set i none } := by
        simp [InventoryClient.step, hsub]
      exact .next (.take i) hstep
        (hsent _ (h.step (e := .take i) trivial hstep) hsends (by simp [hi]))

/-- Nothing gives the timer a value while the loop waits for it. -/
theorem blocked_stays (h : s.blocked = true) :
    Stays (step empty) s fun s' => s'.blocked = true := by
  refine Stays.of_step (fun s e s' hstep hblocked => ?_) h
  cases e with
  | sent =>
    obtain ⟨i, rest, -, -, rfl⟩ := send_cases hstep
    exact hblocked
  | take i =>
    cases take_cases hstep
    exact hblocked
  | timerExpires | contextDone | send | returns =>
    obtain ⟨-, ⟨⟩⟩ := Option.ite_none_right_eq_some.mp hstep
    exact hblocked
  | added | deleted | exit | reconnect | message | subscribe =>
    obtain ⟨hidle, -⟩ := Option.ite_none_right_eq_some.mp hstep
    exact absurd hidle.1 (by simp [hblocked])

theorem not_reaches_idle (h : s.blocked = true) : ¬ Reaches (step empty) s Idle := by
  rintro ⟨t, hrun, hidle⟩
  have hblocked : t.blocked = true := blocked_stays h t hrun
  exact absurd hidle.1 (by simp [hblocked])

/-- In every run in which the service was deleted only while the timer ran, the loop gets to its
next event, and from the event after it does exactly if that one is no deletion at another time. -/
theorem handled_iff (h : Runs (step empty) Drains (start empty) s) :
    Reaches (step empty) s Idle ∧ ∀ e s', step empty s e = some s' →
      (Reaches (step empty) s' Idle ↔ Drains s e) := by
  have hlive : Live s := h.invariant (fun _ _ _ hok hstep hs => hs.step hok hstep) ⟨rfl, nofun⟩
  refine ⟨hlive.reaches_idle _ rfl, fun e s' hstep => ⟨fun hidle => ?_, fun hok =>
    (hlive.step hok hstep).reaches_idle _ rfl⟩⟩
  cases e with
  | deleted =>
    by_contra htimer
    obtain ⟨-, ⟨⟩⟩ := Option.ite_none_right_eq_some.mp hstep
    exact not_reaches_idle (bne_iff_ne.mpr htimer) hidle
  | _ => trivial

/-- Two subscribers wait for the first inventory, and the loop sends it to both. -/
theorem handled_while_sending : ∃ s : InventoryClient Nat,
    [.subscribe, .subscribe, .added true, .send 1 (some 7), .message].foldlM (step 0) (start 0)
      = some s ∧ s.sends = [0, 1] ∧ Reaches (step 0) s Idle := by
  have h₁ : Runs (step 0) Drains (start 0) _ := (Runs.refl (start 0)).next .subscribe trivial rfl
  have h₂ := h₁.next .subscribe trivial rfl
  have h₃ := h₂.next (.added true) trivial rfl
  have h₄ := h₃.next (.send 1 (some 7)) trivial rfl
  have hrun := h₄.next .message trivial rfl
  exact ⟨_, rfl, rfl, (handled_iff hrun).1⟩

/-- A service is added, a connector is started, and the service is deleted. -/
theorem deleted_blocks : ∃ s : InventoryClient Nat,
    [.added true, .deleted].foldlM (step 0) (start 0) = some s ∧ ¬ Reaches (step 0) s Idle :=
  ⟨_, rfl, not_reaches_idle rfl⟩

/-! ## Where inventories are from -/

/-- Every connector has returned before another is started.  No one subscribes between the deletion
of the service and the next message, unless nothing was received from the last connector. -/
def Returned (s : InventoryClient α) : InventoryEvent α → Prop
  | .added _ => s.connectors = []
  | .reconnect _ => s.hasService = true → s.connectors = []
  | .subscribe => s.isConnected = true → s.source ≠ none
  | _ => True

/-- What is applied and forwarded is from the connector that was started last. -/
def FromLast (s : InventoryClient α) : Prop :=
  (∀ a ∈ s.applied, a.1 = a.2) ∧ ∀ f ∈ s.forwarded, f.1 = some f.2

structure Inv (s : InventoryClient α) : Prop where
  connectors : ∀ c ∈ s.connectors, c = s.started
  invch : ∀ m, s.invch = some m → m.connector = s.started
  source : s.isConnected = true → ∀ c, s.source = some c → c = s.started
  sending : s.sends ≠ [] → s.source = some s.started
  fromLast : FromLast s

theorem Inv.startConnector (h : Inv s) (hsends : s.sends = [])
    (hidle : s.hasService = true → s.connectors = []) (ok : Bool) : Inv (s.startConnector ok) := by
  have hsending : (s.startConnector ok).sends = [] := by simp [hsends]
  unfold InventoryClient.startConnector at hsending ⊢
  cases hservice : s.hasService with
  | false => exact h
  | true =>
    rw [hidle hservice]
    cases ok
    · exact ⟨nofun, nofun, nofun, fun hne => absurd hsends hne, h.fromLast⟩
    · exact ⟨fun c hc => List.mem_singleton.mp hc, nofun, nofun, fun hne => absurd hsends hne,
        h.fromLast⟩

theorem Inv.handle (h : Inv s) (hidle : s.sends = []) (hok : Returned s e)
    (hstep : s.handle empty e = some s') : Inv s' := by
  obtain ⟨hconnectors, hinvch, hsource, hsending, happlied, hforwarded⟩ := h
  cases e with
  | added ok =>
    injection hstep with hstep
    subst hstep
    refine Inv.startConnector (s := { s with hasService := true }) ?_ hidle (fun _ => hok) ok
    exact ⟨hconnectors, hinvch, hsource, hsending, happlied, hforwarded⟩
  | reconnect ok =>
    obtain ⟨-, ⟨⟩⟩ := Option.ite_none_right_eq_some.mp hstep
    refine Inv.startConnector (s := { s with timer := .stopped }) ?_ hidle hok ok
    exact ⟨hconnectors, hinvch, hsource, hsending, happlied, hforwarded⟩
  | deleted =>
    injection hstep with hstep
    subst hstep
    exact ⟨hconnectors, hinvch, nofun, fun hne => absurd hidle hne, happlied, hforwarded⟩
  | exit =>
    obtain ⟨-, ⟨⟩⟩ := Option.ite_none_right_eq_some.mp hstep
    exact ⟨hconnectors, hinvch, hsource, hsending, happlied, hforwarded⟩
  | message =>
    obtain ⟨m, hm, rfl⟩ := Option.map_eq_some_iff.mp hstep
    have hlast : m.connector = s.started := hinvch m hm
    refine ⟨hconnectors, nofun, fun _ c hc => ?_, fun _ => congrArg some hlast, fun a ha => ?_,
      hforwarded⟩
    · injection hc with hc
      exact hc.symm.trans hlast
    · obtain ha | ha := List.mem_append.mp ha
      · exact happlied a ha
      · rw [List.mem_singleton.mp ha]
        exact hlast
  | subscribe =>
    injection hstep with hstep
    subst hstep
    refine ⟨hconnectors, hinvch, hsource, fun hne => ?_, happlied, hforwarded⟩
    have hconnected : s.isConnected = true := by
      by_contra hno
      exact hne (if_neg hno)
    obtain ⟨c, hc⟩ := Option.ne_none_iff_exists'.mp (hok hconnected)
    exact hc.trans (congrArg some (hsource hconnected c hc))
  | sent | take | timerExpires | contextDone | send | returns => cases hstep

theorem Inv.step (h : Inv s) (hok : Returned s e) (hstep : step empty s e = some s') : Inv s' := by
  obtain ⟨hconnectors, hinvch, hsource, hsending, happlied, hforwarded⟩ := h
  cases e with
  | sent =>
    obtain ⟨i, rest, hsends, -, rfl⟩ := send_cases hstep
    have hlast : s.source = some s.started := hsending (by simp [hsends])
    refine ⟨hconnectors, hinvch, hsource, fun _ => hlast, happlied, fun f hf => ?_⟩
    obtain hf | hf := List.mem_append.mp hf
    · exact hforwarded f hf
    · rw [List.mem_singleton.mp hf]
      exact hlast
  | take i =>
    cases take_cases hstep
    exact ⟨hconnectors, hinvch, hsource, hsending, happlied, hforwarded⟩
  | timerExpires | contextDone =>
    obtain ⟨-, ⟨⟩⟩ := Option.ite_none_right_eq_some.mp hstep
    exact ⟨hconnectors, hinvch, hsource, hsending, happlied, hforwarded⟩
  | send connector cluster =>
    obtain ⟨⟨hmem, -⟩, ⟨⟩⟩ := Option.ite_none_right_eq_some.mp hstep
    refine ⟨hconnectors, fun m hm => ?_, hsource, hsending, happlied, hforwarded⟩
    injection hm with hm
    subst hm
    exact hconnectors connector hmem
  | returns connector dialed =>
    obtain ⟨hmem, ⟨⟩⟩ := Option.ite_none_right_eq_some.mp hstep
    refine ⟨fun c hc => hconnectors c (List.mem_filter.mp hc).1, fun m hm => ?_, hsource,
      hsending, happlied, hforwarded⟩
    cases dialed with
    | false => exact hinvch m hm
    | true =>
      obtain hm | ⟨-, hm⟩ := Option.or_eq_some_iff.mp hm
      · exact hinvch m hm
      · injection hm with hm
        subst hm
        exact hconnectors connector hmem
  | added | deleted | exit | reconnect | message | subscribe =>
    obtain ⟨hidle, hstep⟩ := Option.ite_none_right_eq_some.mp hstep
    exact Inv.handle ⟨hconnectors, hinvch, hsource, hsending, happlied, hforwarded⟩ hidle.2 hok
      hstep

theorem forwarded_from_last (h : Runs (step empty) Returned (start empty) s) : FromLast s :=
  (h.invariant (I := Inv) (fun _ _ _ hok hstep hs => hs.step hok hstep)
    ⟨nofun, nofun, nofun, nofun, nofun, nofun⟩).fromLast

theorem forwarded_from_last_update : ∃ s : InventoryClient Nat,
    Runs (step 0) Returned (start 0) s ∧ s.forwarded = [(some 1, 1)] ∧ s.inv = 7 ∧ FromLast s := by
  have h₁ : Runs (step 0) Returned (start 0) _ := (Runs.refl (start 0)).next .subscribe nofun rfl
  have h₂ := h₁.next (.added true) rfl rfl
  have h₃ := h₂.next (.send 1 (some 7)) trivial rfl
  have h₄ := h₃.next .message trivial rfl
  have hrun := h₄.next .sent trivial rfl
  exact ⟨_, hrun, rfl, rfl, forwarded_from_last hrun⟩

/-- The service is added again.  The first connector returns after the second was started, and
its loss of connection is forwarded. -/
theorem late_message_applied : ∃ s : InventoryClient Nat,
    Runs (step 0) (fun _ _ => True) (start 0) s ∧ s.applied = [(2, 2), (1, 2)] ∧
      s.forwarded = [(some 2, 2), (some 1, 2)] ∧ s.inv = 0 ∧ ¬ FromLast s := by
  refine ⟨_, Runs.of_foldlM [.subscribe, .added true, .added true, .send 2 (some 7), .message,
    .sent, .take 0, .returns 1 true, .message, .sent] _ _ rfl, rfl, rfl, rfl, ?_⟩
  exact fun h => absurd (h.1 (1, 2) (by decide)) (by decide)

end InventoryClient

/-! ## Subscribers -/

/-- The state of `subscriber`. -/
structure Subscriber (α β : Type) where
  pending : List α
  msg : Option β
  /-- `och` is `out`, not nil. -/
  och : Bool

inductive SubscriberEvent (α β : Type) where
  /-- An inventory is received on `in`. -/
  | input (inv : α)
  /-- A value is read from `out`. -/
  | read (out : β)

namespace Subscriber

variable {α β : Type}

def start : Subscriber α β := ⟨[], none, false⟩

def received (es : List (SubscriberEvent α β)) : List α :=
  es.filterMap fun
    | .input inv => some inv
    | .read _ => none

def delivered (es : List (SubscriberEvent α β)) : List β :=
  es.filterMap fun
    | .input _ => none
    | .read out => some out

@[simp] theorem received_append (es fs : List (SubscriberEvent α β)) :
    received (es ++ fs) = received es ++ received fs := List.filterMap_append

@[simp] theorem received_input (inv : α) : received [(.input inv : SubscriberEvent α β)] = [inv] :=
  rfl

@[simp] theorem received_read (out : β) : received [(.read out : SubscriberEvent α β)] = [] := rfl

@[simp] theorem delivered_append (es fs : List (SubscriberEvent α β)) :
    delivered (es ++ fs) = delivered es ++ delivered fs := List.filterMap_append

@[simp] theorem delivered_input (inv : α) : delivered [(.input inv : SubscriberEvent α β)] = [] :=
  rfl

@[simp] theorem delivered_read (out : β) : delivered [(.read out : SubscriberEvent α β)] = [out] :=
  rfl

variable [DecidableEq β] (newInventory : α → β)

def step (s : Subscriber α β) : SubscriberEvent α β → Option (Subscriber α β)
  | .input inv =>
    let s := { s with pending := s.pending ++ [inv] }
    some (if s.och then s else { s with msg := s.pending.head?.map newInventory, och := true })
  | .read out =>
    if s.och = true ∧ s.msg = some out then
      let s := { s with pending := s.pending.tail }
      some (if 0 < s.pending.length then { s with msg := s.pending.head?.map newInventory }
        else { s with msg := none, och := false })
    else none

/-- What was received has been delivered or is pending, and the first one pending is offered. -/
structure Inv (es : List (SubscriberEvent α β)) (s : Subscriber α β) : Prop where
  split : ∃ done, received es = done ++ s.pending ∧ delivered es = done.map newInventory
  offers : s.och = true ↔ s.pending ≠ []
  offered : s.msg = s.pending.head?.map newInventory

variable {newInventory} {es : List (SubscriberEvent α β)} {s : Subscriber α β}

theorem Inv.step {s' : Subscriber α β} {e : SubscriberEvent α β} (h : Inv newInventory es s)
    (hstep : s.step newInventory e = some s') : Inv newInventory (es ++ [e]) s' := by
  obtain ⟨⟨done, hreceived, hdelivered⟩, hoffers, hoffered⟩ := h
  cases e with
  | input inv =>
    injection hstep with hstep
    subst hstep
    have hin : received (es ++ [.input inv]) = done ++ (s.pending ++ [inv]) := by
      simp [hreceived]
    have hout : delivered (es ++ [.input inv]) = done.map newInventory := by
      simp [hdelivered]
    cases hoch : s.och with
    | false => exact ⟨⟨done, hin, hout⟩, by simp, by simp⟩
    | true =>
      obtain ⟨first, rest, hpending⟩ := List.exists_cons_of_ne_nil (hoffers.mp hoch)
      exact ⟨⟨done, hin, hout⟩, by simp, by simp [hoffered, hpending]⟩
  | read out =>
    obtain ⟨⟨hoch, hmsg⟩, ⟨⟩⟩ := Option.ite_none_right_eq_some.mp hstep
    obtain ⟨first, rest, hpending⟩ := List.exists_cons_of_ne_nil (hoffers.mp hoch)
    have hfirst : newInventory first = out := by
      simpa [hoffered, hpending] using hmsg
    have hin : received (es ++ [.read out]) = (done ++ [first]) ++ rest := by
      simp [hreceived, hpending]
    have hout : delivered (es ++ [.read out]) = (done ++ [first]).map newInventory := by
      simp [hdelivered, hfirst]
    rw [hpending]
    cases rest with
    | nil => exact ⟨⟨done ++ [first], hin, hout⟩, by simp, by simp⟩
    | cons second rest => exact ⟨⟨done ++ [first], hin, hout⟩, by simp [hoch], by simp⟩

theorem inv_of_events (h : es.foldlM (step newInventory) start = some s) :
    Inv newInventory es s :=
  foldlM_invariant ⟨⟨[], rfl, rfl⟩, by simp [start], rfl⟩ (fun _ _ _ _ hI hstep => hI.step hstep)
    es h

theorem Inv.read_isSome (h : Inv newInventory es s) (out : β) :
    (s.step newInventory (.read out)).isSome ↔ s.pending.head?.map newInventory = some out := by
  have hoch : s.pending.head?.map newInventory = some out → s.och = true := by
    intro hout
    refine h.offers.mpr fun hnil => ?_
    simp [hnil] at hout
  rw [← h.offered] at hoch ⊢
  simp only [Subscriber.step, Option.isSome_ite]
  exact ⟨And.right, fun hmsg => ⟨hoch hmsg, hmsg⟩⟩

/-- What was read is a prefix of what came in, each wrapped, and the rest is pending in order.  The
subscriber takes every input, and the first one pending can be read and no other. -/
theorem subscriber_in_order (newInventory : α → β)
    (h : es.foldlM (step newInventory) start = some s) :
    delivered es <+: (received es).map newInventory ∧
      (received es).drop (delivered es).length = s.pending ∧
      (s.och = true ↔ s.pending ≠ []) ∧
      (∀ inv ∈ s.pending.head?, s.msg = some (newInventory inv)) ∧
      (∀ inv, (s.step newInventory (.input inv)).isSome) ∧
      ∀ out, (s.step newInventory (.read out)).isSome ↔
        s.pending.head?.map newInventory = some out := by
  have hinv := inv_of_events h
  obtain ⟨⟨done, hreceived, hdelivered⟩, hoffers, hoffered⟩ := inv_of_events h
  refine ⟨?_, ?_, hoffers, fun inv hinv => ?_, fun _ => rfl, hinv.read_isSome⟩
  · rw [hreceived, hdelivered, List.map_append]
    exact List.prefix_append _ _
  · rw [hreceived, hdelivered, List.length_map, List.drop_left]
  · rw [hoffered, hinv, Option.map_some]

theorem two_received_one_delivered : ∃ s : Subscriber Nat Nat,
    [.input 1, .input 2, .read 10].foldlM (step (· * 10)) start = some s ∧ s.pending = [2] ∧
      delivered [.input 1, .input 2, .read 10] <+: [10, 20] ∧ s.msg = some 20 := by
  have h : [.input 1, .input 2, .read 10].foldlM (step (· * 10)) start
      = some (⟨[2], some 20, true⟩ : Subscriber Nat Nat) := rfl
  obtain ⟨hread, -, -, hmsg, -⟩ := subscriber_in_order (· * 10) h
  exact ⟨_, h, rfl, hread, hmsg 2 rfl⟩

/-- Reads of all that is pending, one after the other. -/
def readAll (newInventory : α → β) (s : Subscriber α β) : List (SubscriberEvent α β) :=
  s.pending.map fun inv => .read (newInventory inv)

omit [DecidableEq β] in
theorem delivered_readAll : delivered (s.readAll newInventory) = s.pending.map newInventory := by
  rw [delivered, readAll, List.filterMap_map]
  exact congrFun List.filterMap_eq_map _

theorem step_read_tail {s' : Subscriber α β} {out : β}
    (hstep : s.step newInventory (.read out) = some s') : s'.pending = s.pending.tail := by
  obtain ⟨-, ⟨⟩⟩ := Option.ite_none_right_eq_some.mp hstep
  split <;> rfl

theorem Inv.readAll (pending : List α) : ∀ {es : List (SubscriberEvent α β)} {s : Subscriber α β},
    Inv newInventory es s → s.pending = pending → ∃ s', (s.readAll newInventory).foldlM
      (Subscriber.step newInventory) s = some s' ∧ s'.pending = [] := by
  induction pending with
  | nil => exact fun h hpending => ⟨_, by simp [Subscriber.readAll, hpending], hpending⟩
  | cons inv rest ih =>
    intro es s h hpending
    obtain ⟨s₁, hread⟩ := Option.isSome_iff_exists.mp
      ((h.read_isSome (newInventory inv)).mpr (by simp [hpending]))
    have hrest : s₁.pending = rest := by
      rw [step_read_tail hread, hpending]
      rfl
    obtain ⟨s', hreads, hend⟩ := ih (h.step hread) hrest
    refine ⟨s', ?_, hend⟩
    simp only [Subscriber.readAll, hpending, List.map_cons, List.foldlM_cons, hread]
    rwa [Subscriber.readAll, hrest] at hreads

/-- After any events what is pending can be read to its end, so that all that came in has been
read, in order, and then there is nothing to read. -/
theorem subscriber_drains (newInventory : α → β)
    (h : es.foldlM (step newInventory) start = some s) :
    ∃ s', (es ++ s.readAll newInventory).foldlM (step newInventory) start = some s' ∧
      delivered (es ++ s.readAll newInventory) = (received es).map newInventory ∧
      ∀ out, s'.step newInventory (.read out) = none := by
  obtain ⟨s', hreads, hend⟩ := (inv_of_events h).readAll _ rfl
  have hrun : (es ++ s.readAll newInventory).foldlM (step newInventory) start = some s' := by
    rw [List.foldlM_append, h]
    exact hreads
  refine ⟨s', hrun, ?_, fun out => ?_⟩
  · obtain ⟨done, hreceived, hdelivered⟩ := (inv_of_events h).split
    rw [delivered_append, delivered_readAll, hdelivered, hreceived, List.map_append]
  · have hread := (inv_of_events hrun).read_isSome out
    simpa [hend] using hread

theorem three_received_drain : ∃ s' : Subscriber Nat Nat,
    [.input 1, .input 2, .read 10, .input 3, .read 20, .read 30].foldlM (step (· * 10)) start
      = some s' ∧ ∀ out, s'.step (· * 10) (.read out) = none := by
  have h : [.input 1, .input 2, .read 10, .input 3].foldlM (step (· * 10)) start
      = some (⟨[2, 3], some 20, true⟩ : Subscriber Nat Nat) := rfl
  obtain ⟨s', hrun, -, hend⟩ := subscriber_drains (· * 10) h
  exact ⟨s', hrun, hend⟩

end Subscriber

end AkashProvider
