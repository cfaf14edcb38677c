import AkashProvider.Operator.Monitor

/-!
# The connector of node discoveries

The connector starts a discovery for each node that is added: the monitor, and `apiConnector`,
which at its end sends the name of the node on `signaldone`, a channel with room for one.  The
connector takes each name for a discovery that failed.  To shut one down it cancels its context
and waits for both goroutines, and reads nothing while it waits.

`last` is the last event of each node that was read.  No step reads it.
-/

namespace AkashProvider.Operator

inductive ApiPhase where
  | running
  | sending
  | done
deriving DecidableEq

structure Discovery where
  name : String
  api : ApiPhase
  monitorRuns : Bool

/-- What the connector does when the discovery that it waits for has finished. -/
inductive AfterWait where
  | restart (name : String)
  | remove (name : String)

/-- The discoveries are numbered as they are started. -/
structure Connector where
  nodes : String → Option Nat
  started : Nat
  discovery : Nat → Discovery
  signaldone : Option String
  waiting : Option (Nat × AfterWait)
  stopping : Bool
  last : String → Option WatchType

inductive ConnectorEvent where
  | node (type : WatchType) (name : String)
  | signal
  | waited
  | ctxDone
  | stopNode (name : String)
  | drain
  | apiReturns (id : Nat)
  | apiSends (id : Nat)
  | monitorReturns (id : Nat)

namespace Connector

def init : Connector :=
  { nodes := fun _ => none
    started := 0
    discovery := fun _ => ⟨"", .done, false⟩
    signaldone := none
    waiting := none
    stopping := false
    last := fun _ => none }

/-- The connector is at its `select`. -/
def Looping (s : Connector) : Prop := s.waiting = none ∧ s.stopping = false

instance (s : Connector) : Decidable s.Looping :=
  inferInstanceAs (Decidable (s.waiting = none ∧ s.stopping = false))

def newNodeDiscovery (s : Connector) (name : String) : Connector :=
  { s with
    nodes := Function.update s.nodes name (some s.started)
    started := s.started + 1
    discovery := Function.update s.discovery s.started ⟨name, .running, true⟩ }

def setDiscovery (s : Connector) (id : Nat) (d : Discovery) : Connector :=
  { s with discovery := Function.update s.discovery id d }

def onSignal (s : Connector) (name : String) : Connector :=
  let s := { s with signaldone := none }
  match s.nodes name with
  | some id => { s with
      nodes := Function.update s.nodes (s.discovery id).name none
      waiting := some (id, .restart name) }
  | none => s.newNodeDiscovery name

def read (s : Connector) (type : WatchType) (name : String) : Connector :=
  { s with last := Function.update s.last name (some type) }

def onNode (s : Connector) (type : WatchType) (name : String) : Connector :=
  match type with
  | .added => (s.read .added name).newNodeDiscovery name
  | .modified => s
  | .deleted =>
    let s := s.read .deleted name
    match s.nodes name with
    | some id => { s with waiting := some (id, .remove (s.discovery id).name) }
    | none => s

/-- `group.Wait()` has returned. -/
def afterWait (s : Connector) (after : AfterWait) : Connector :=
  let s := { s with waiting := none }
  match after with
  | .restart name => s.newNodeDiscovery name
  | .remove name => { s with nodes := Function.update s.nodes name none }

/-- Both goroutines have returned. -/
def Finished (s : Connector) (id : Nat) : Prop :=
  (s.discovery id).api = .done ∧ (s.discovery id).monitorRuns = false

instance (s : Connector) (id : Nat) : Decidable (s.Finished id) :=
  by unfold Finished; infer_instance

def step (s : Connector) : ConnectorEvent → Option Connector
  | .node type name => if s.Looping then some (s.onNode type name) else none
  | .signal => if s.Looping then s.signaldone.map s.onSignal else none
  | .waited => s.waiting.bind fun w => if s.Finished w.1 then some (s.afterWait w.2) else none
  | .ctxDone => if s.Looping then some { s with stopping := true } else none
  | .stopNode name =>
    if s.stopping = true ∧ s.waiting = none then
      (s.nodes name).map fun id => { s with waiting := some (id, .remove name) }
    else none
  | .drain =>
    if s.stopping then s.signaldone.map fun _ => { s with signaldone := none } else none
  | .apiReturns id =>
    if id < s.started ∧ (s.discovery id).api = .running then
      some (s.setDiscovery id { s.discovery id with api := .sending })
    else none
  | .apiSends id =>
    if id < s.started ∧ (s.discovery id).api = .sending ∧ s.signaldone = none then
      some { s.setDiscovery id { s.discovery id with api := .done } with
        signaldone := some (s.discovery id).name }
    else none
  | .monitorReturns id =>
    if id < s.started ∧ (s.discovery id).monitorRuns = true then
      some (s.setDiscovery id { s.discovery id with monitorRuns := false })
    else none

/-! ## What can go wrong -/

def Holds (s : Connector) (id : Nat) : Prop := ∃ name, s.nodes name = some id

/-- The connector waits for a discovery that waits for room in the channel, and nobody reads. -/
def Deadlocked (s : Connector) : Prop :=
  s.stopping = false ∧ s.signaldone ≠ none ∧ ∃ w ∈ s.waiting, (s.discovery w.1).api = .sending

instance (s : Connector) : Decidable s.Deadlocked :=
  by unfold Deadlocked; infer_instance

/-- The channel is full, and the discovery that the connector waits for has yet to send. -/
def Blocked (s : Connector) : Prop :=
  s.stopping = false ∧ s.signaldone ≠ none ∧ ∃ w ∈ s.waiting, (s.discovery w.1).api ≠ .done

/-- A signal is of a node that is there.  When a node is deleted its discovery has sent or the
channel has room, and while a discovery is waited for that has to send no other sends. -/
def Orderly (s : Connector) : ConnectorEvent → Prop
  | .node .deleted name => ∀ id ∈ s.nodes name, (s.discovery id).api = .done ∨ s.signaldone = none
  | .signal => ∀ name ∈ s.signaldone, s.last name = some .added
  | .apiSends id => ∀ w ∈ s.waiting, s.stopping = false → w.1 = id ∨ (s.discovery w.1).api = .done
  | _ => True

instance (s : Connector) (e : ConnectorEvent) : Decidable (s.Orderly e) := by
  unfold Orderly
  split <;> infer_instance

/-- The map holds discoveries under their names. -/
@[grind cases]
structure Formed (s : Connector) : Prop where
  named : ∀ name id, s.nodes name = some id → id < s.started ∧ (s.discovery id).name = name
  waiting : ∀ w, s.waiting = some w → w.1 < s.started

/-- Discoveries are held for nodes that are there, but for the one that is shut down. -/
@[grind cases]
structure Sound (s : Connector) : Prop where
  present : ∀ name id, s.nodes name = some id →
    s.last name = some .added ∨ (∃ w, s.waiting = some w ∧ w.2 = .remove name)
  restarting : ∀ w name, s.waiting = some w → w.2 = .restart name → s.last name = some .added
  free : ¬s.Blocked

/-! ## Steps -/

variable {s s' : Connector}

theorem newNodeDiscovery_nodes (s : Connector) (name key : String) :
    (s.newNodeDiscovery name).nodes key =
      if key = name then some s.started else s.nodes key := Function.update_apply _ _ _ _

theorem newNodeDiscovery_discovery (s : Connector) (name : String) (k : Nat) :
    (s.newNodeDiscovery name).discovery k =
      if k = s.started then ⟨name, .running, true⟩ else s.discovery k :=
  Function.update_apply _ _ _ _

theorem setDiscovery_discovery (s : Connector) (id : Nat) (d : Discovery) (k : Nat) :
    (s.setDiscovery id d).discovery k = if k = id then d else s.discovery k :=
  Function.update_apply _ _ _ _

variable {name : String}

theorem onNode_deleted_of_none (h : s.nodes name = none) :
    s.onNode .deleted name = s.read .deleted name := by
  simp only [onNode, read, h]

variable {id : Nat}

theorem onNode_deleted_of_some (hformed : s.Formed) (h : s.nodes name = some id) :
    s.onNode .deleted name =
      { s.read .deleted name with waiting := some (id, .remove name) } := by
  simp only [onNode, read, h, (hformed.named name id h).2]

theorem onSignal_of_none (h : s.nodes name = none) :
    s.onSignal name = { s with signaldone := none }.newNodeDiscovery name := by
  simp only [onSignal, h]

theorem onSignal_of_some (hformed : s.Formed) (h : s.nodes name = some id) : s.onSignal name =
      { s with
        signaldone := none
        nodes := Function.update s.nodes name none
        waiting := some (id, .restart name) } := by
  simp only [onSignal, h, (hformed.named name id h).2]

theorem sound_iff_of_waiting (h : s.waiting = none) :
    s.Sound ↔ ∀ name id, s.nodes name = some id → s.last name = some .added := by
  refine ⟨fun hsound => ?_, fun hadded => ⟨?_, ?_, ?_⟩⟩ <;> grind [Blocked]

theorem sound_newNodeDiscovery_iff (h : s.waiting = none) (name : String) :
    (s.newNodeDiscovery name).Sound ↔ s.last name = some .added ∧
      ∀ key id, key ≠ name → s.nodes key = some id → s.last key = some .added := by
  rw [sound_iff_of_waiting (s := s.newNodeDiscovery name) h]
  constructor
  · intro hadded
    refine ⟨hadded name s.started (by rw [newNodeDiscovery_nodes, if_pos rfl]), ?_⟩
    intro key id hkey hid
    exact hadded key id (by rw [newNodeDiscovery_nodes, if_neg hkey, hid])
  · rintro ⟨hname, hother⟩ key id hid
    rw [newNodeDiscovery_nodes] at hid
    split at hid
    next hkey => exact hkey ▸ hname
    next hkey => exact hother key id hkey hid

variable {d : Discovery}

theorem Sound.setDiscovery (h : s.Sound) (hd : d.api = .done ↔ (s.discovery id).api = .done) :
    (s.setDiscovery id d).Sound := by
  refine ⟨h.present, h.restarting, ?_⟩
  rintro ⟨hstopping, hfull, w, hw, hapi⟩
  refine h.free ⟨hstopping, hfull, w, hw, ?_⟩
  grind [setDiscovery_discovery]

theorem Sound.onNode_iff (hformed : s.Formed) (h : s.Sound) (hloop : s.Looping)
    (type : WatchType) (name : String) :
    (s.onNode type name).Sound ↔ s.Orderly (.node type name) := by
  have hadded := (sound_iff_of_waiting hloop.1).mp h
  have hother : ∀ {type : WatchType} (key : String) (id : Nat), key ≠ name →
      s.nodes key = some id → (s.read type name).last key = some .added := by
    intro type key id hkey hid
    exact (Function.update_of_ne hkey _ _).trans (hadded key id hid)
  cases type with
  | added =>
    exact iff_of_true ((sound_newNodeDiscovery_iff (s := s.read .added name) hloop.1 name).mpr
      ⟨Function.update_self _ _ _, fun key id => hother key id⟩) trivial
  | modified => exact iff_of_true h trivial
  | deleted =>
    cases hnode : s.nodes name with
    | none =>
      rw [onNode_deleted_of_none hnode]
      refine iff_of_true ((sound_iff_of_waiting (s := s.read .deleted name) hloop.1).mpr
        fun key id hid => hother key id ?_ hid) ?_
      · rintro rfl
        exact Option.some_ne_none id (hid.symm.trans hnode)
      · intro id hid
        simp_all
    | some id =>
      rw [onNode_deleted_of_some hformed hnode]
      constructor
      · intro hsound id' hid'
        obtain rfl := Option.some.inj (hid'.symm.trans hnode)
        by_contra hblocked
        rw [not_or] at hblocked
        exact hsound.free ⟨hloop.2, hblocked.2, _, rfl, hblocked.1⟩
      · intro horderly
        refine ⟨fun key id' hid' => ?_, by grind, ?_⟩
        · by_cases hkey : key = name
          · exact .inr ⟨_, rfl, by rw [hkey]⟩
          · exact .inl (hother key id' hkey hid')
        · rintro ⟨-, hfull, w, ⟨⟩, hapi⟩
          exact (horderly id hnode).elim hapi hfull

theorem Sound.onSignal_iff (hformed : s.Formed) (h : s.Sound) (hloop : s.Looping)
    (hsignal : s.signaldone = some name) :
    (s.onSignal name).Sound ↔ s.Orderly .signal := by
  have hadded := (sound_iff_of_waiting hloop.1).mp h
  have horderly : s.Orderly .signal ↔ s.last name = some .added := by
    rw [Orderly, hsignal]
    simp
  rw [horderly]
  cases hnode : s.nodes name with
  | none =>
    rw [onSignal_of_none hnode,
      sound_newNodeDiscovery_iff (s := { s with signaldone := none }) hloop.1 name]
    simp_all
  | some id =>
    have hname := hadded name id hnode
    rw [onSignal_of_some hformed hnode]
    refine iff_of_true ⟨fun key id' hid' => .inl ?_, ?_, ?_⟩ hname
    · grind
    · grind
    · rintro ⟨-, hfull, -⟩
      exact hfull rfl

theorem Sound.afterWait (h : s.Sound) {w : Nat × AfterWait} (hw : s.waiting = some w) :
    (s.afterWait w.2).Sound := by
  obtain ⟨id, after⟩ := w
  have hpresent : ∀ key id', s.nodes key = some id' →
      s.last key = some .added ∨ after = .remove key := by
    intro key id' hid'
    refine (h.present key id' hid').imp_right ?_
    simp_all
  cases after with
  | restart name =>
    refine (sound_newNodeDiscovery_iff rfl name).mpr ⟨h.restarting _ name hw rfl, ?_⟩
    simp_all
  | remove name =>
    refine (sound_iff_of_waiting rfl).mpr fun key id' hid' => ?_
    have hid' : Function.update s.nodes name none key = some id' := hid'
    rw [Function.update_apply] at hid'
    split at hid'
    next => cases hid'
    next hkey =>
      refine (hpresent key id' hid').resolve_right ?_
      grind

theorem Sound.apiSends_iff (h : s.Sound) (id : Nat) :
    Sound { s.setDiscovery id { s.discovery id with api := .done } with
      signaldone := some (s.discovery id).name } ↔ s.Orderly (.apiSends id) := by
  constructor
  · intro hsound w hw hstopping
    by_contra hother
    refine hsound.free ⟨hstopping, by simp, w, hw, ?_⟩
    grind [setDiscovery_discovery]
  · intro horderly
    refine ⟨h.present, h.restarting, ?_⟩
    rintro ⟨hstopping, -, w, hw, hapi⟩
    rw [show (_ : Connector).discovery w.1 = _ from setDiscovery_discovery s id _ w.1] at hapi
    have hfree := horderly w hw hstopping
    grind

/-! ## Names -/

theorem Formed.newNodeDiscovery (h : s.Formed) (name : String) :
    (s.newNodeDiscovery name).Formed := by
  refine ⟨fun key id hid => ?_, fun w hw => Nat.lt_succ_of_lt (h.waiting w hw)⟩
  have hstarted : (s.newNodeDiscovery name).started = s.started + 1 := rfl
  rw [newNodeDiscovery_nodes] at hid
  grind [newNodeDiscovery_discovery]

theorem Formed.setDiscovery (h : s.Formed) (hname : d.name = (s.discovery id).name) :
    (s.setDiscovery id d).Formed where
  named := by
    intro key k hk
    obtain ⟨hlt, hkey⟩ := h.named key k hk
    refine ⟨hlt, ?_⟩
    rw [setDiscovery_discovery]
    split
    next hid => rw [hname, ← hid, hkey]
    next => exact hkey
  waiting := h.waiting

theorem Formed.named_update (h : s.Formed) {name key : String}
    (hid : Function.update s.nodes name none key = some id) :
    id < s.started ∧ (s.discovery id).name = key := by
  rw [Function.update_apply] at hid
  split at hid
  next => cases hid
  next => exact h.named key id hid

theorem Formed.onNode (h : s.Formed) (type : WatchType) (name : String) :
    (s.onNode type name).Formed := by
  have hread : ∀ type, (s.read type name).Formed := fun _ => ⟨h.named, h.waiting⟩
  cases type with
  | added => exact (hread .added).newNodeDiscovery name
  | modified => exact h
  | deleted =>
    cases hnode : s.nodes name with
    | none =>
      rw [onNode_deleted_of_none hnode]
      exact hread .deleted
    | some id =>
      rw [onNode_deleted_of_some h hnode]
      refine ⟨h.named, ?_⟩
      rintro w ⟨⟩
      exact (h.named name id hnode).1

theorem Formed.onSignal (h : s.Formed) (name : String) : (s.onSignal name).Formed := by
  cases hnode : s.nodes name with
  | none =>
    rw [onSignal_of_none hnode]
    exact Formed.newNodeDiscovery (s := { s with signaldone := none }) ⟨h.named, h.waiting⟩ name
  | some id =>
    rw [onSignal_of_some h hnode]
    refine ⟨fun key k hk => h.named_update hk, ?_⟩
    rintro w ⟨⟩
    exact (h.named name id hnode).1

theorem Formed.afterWait (h : s.Formed) (after : AfterWait) : (s.afterWait after).Formed := by
  cases after with
  | restart name =>
    exact Formed.newNodeDiscovery (s := { s with waiting := none }) ⟨h.named, nofun⟩ name
  | remove name => exact ⟨fun key k hk => h.named_update hk, nofun⟩

/-! ## Runs -/

variable {e : ConnectorEvent}

theorem Formed.step (h : s.Formed) (hstep : s.step e = some s') :
    s'.Formed := by
  cases e with
  | node type name =>
    obtain ⟨-, ⟨⟩⟩ := Option.ite_none_right_eq_some.mp hstep
    exact h.onNode type name
  | signal =>
    obtain ⟨-, hs'⟩ := Option.ite_none_right_eq_some.mp hstep
    obtain ⟨name, -, rfl⟩ := Option.map_eq_some_iff.mp hs'
    exact h.onSignal name
  | waited =>
    obtain ⟨w, -, hs'⟩ := Option.bind_eq_some_iff.mp hstep
    obtain ⟨-, ⟨⟩⟩ := Option.ite_none_right_eq_some.mp hs'
    exact h.afterWait w.2
  | ctxDone =>
    obtain ⟨-, ⟨⟩⟩ := Option.ite_none_right_eq_some.mp hstep
    exact ⟨h.named, h.waiting⟩
  | stopNode name =>
    obtain ⟨-, hs'⟩ := Option.ite_none_right_eq_some.mp hstep
    obtain ⟨id, hid, rfl⟩ := Option.map_eq_some_iff.mp hs'
    refine ⟨h.named, fun w hw => ?_⟩
    injection hw with hw
    exact hw ▸ (h.named name id hid).1
  | drain =>
    obtain ⟨-, hs'⟩ := Option.ite_none_right_eq_some.mp hstep
    obtain ⟨-, -, rfl⟩ := Option.map_eq_some_iff.mp hs'
    exact ⟨h.named, h.waiting⟩
  | apiReturns id | monitorReturns id =>
    obtain ⟨-, ⟨⟩⟩ := Option.ite_none_right_eq_some.mp hstep
    exact h.setDiscovery rfl
  | apiSends id =>
    obtain ⟨-, hs'⟩ := Option.ite_none_right_eq_some.mp hstep
    injection hs' with hs'
    have hset : (s.setDiscovery id { s.discovery id with api := .done }).Formed :=
      h.setDiscovery rfl
    exact hs' ▸ ⟨hset.named, hset.waiting⟩

theorem Sound.step_iff (hformed : s.Formed) (h : s.Sound) (hstep : s.step e = some s') :
    s'.Sound ↔ s.Orderly e := by
  cases e with
  | node type name =>
    obtain ⟨hloop, ⟨⟩⟩ := Option.ite_none_right_eq_some.mp hstep
    exact h.onNode_iff hformed hloop type name
  | signal =>
    obtain ⟨hloop, hs'⟩ := Option.ite_none_right_eq_some.mp hstep
    obtain ⟨name, hname, rfl⟩ := Option.map_eq_some_iff.mp hs'
    exact h.onSignal_iff hformed hloop hname
  | waited =>
    obtain ⟨w, hw, hs'⟩ := Option.bind_eq_some_iff.mp hstep
    obtain ⟨-, ⟨⟩⟩ := Option.ite_none_right_eq_some.mp hs'
    exact iff_of_true (h.afterWait hw) trivial
  | ctxDone =>
    obtain ⟨-, ⟨⟩⟩ := Option.ite_none_right_eq_some.mp hstep
    exact iff_of_true ⟨h.present, h.restarting, fun hblocked => nomatch hblocked.1⟩ trivial
  | stopNode name =>
    obtain ⟨⟨hstopping, hwaiting⟩, hs'⟩ := Option.ite_none_right_eq_some.mp hstep
    obtain ⟨id, -, rfl⟩ := Option.map_eq_some_iff.mp hs'
    refine iff_of_true ⟨fun key k hk => .inl ?_, ?_, ?_⟩ trivial
    · exact (sound_iff_of_waiting hwaiting).mp h key k hk
    · grind
    · intro hblocked
      exact Bool.false_ne_true (hblocked.1.symm.trans hstopping)
  | drain =>
    obtain ⟨hstopping, hs'⟩ := Option.ite_none_right_eq_some.mp hstep
    obtain ⟨-, -, rfl⟩ := Option.map_eq_some_iff.mp hs'
    exact iff_of_true ⟨h.present, h.restarting, fun hblocked => hblocked.2.1 rfl⟩ trivial
  | apiReturns id =>
    obtain ⟨⟨-, hrunning⟩, ⟨⟩⟩ := Option.ite_none_right_eq_some.mp hstep
    exact iff_of_true (h.setDiscovery (by simp [hrunning])) trivial
  | apiSends id =>
    obtain ⟨-, ⟨⟩⟩ := Option.ite_none_right_eq_some.mp hstep
    exact h.apiSends_iff id
  | monitorReturns id =>
    obtain ⟨-, ⟨⟩⟩ := Option.ite_none_right_eq_some.mp hstep
    exact iff_of_true (h.setDiscovery Iff.rfl) trivial

theorem Deadlocked.step (h : s.Deadlocked) (hstep : s.step e = some s') :
    s'.Deadlocked := by
  obtain ⟨hstopping, hfull, w, hw, hapi⟩ := h
  have hloop : ¬s.Looping := fun hloop => Option.some_ne_none w (hw.symm.trans hloop.1)
  have hset : ∀ {id : Nat} {d : Discovery}, (id = w.1 → d.api = .sending) →
      (s.setDiscovery id d).Deadlocked := by
    intro id d hd
    exact ⟨hstopping, hfull, w, hw, by grind [setDiscovery_discovery]⟩
  cases e with
  | node | ctxDone | signal => exact absurd (Option.ite_none_right_eq_some.mp hstep).1 hloop
  | waited =>
    obtain ⟨w', hw', hs'⟩ := Option.bind_eq_some_iff.mp hstep
    obtain ⟨hfinished, -⟩ := Option.ite_none_right_eq_some.mp hs'
    rw [Option.some.inj (hw.symm.trans hw'), hfinished.1] at hapi
    cases hapi
  | stopNode name | drain =>
    have hguard := (Option.ite_none_right_eq_some.mp hstep).1
    simp_all
  | apiSends id => exact absurd (Option.ite_none_right_eq_some.mp hstep).1.2.2 hfull
  | apiReturns id | monitorReturns id =>
    obtain ⟨-, hs'⟩ := Option.ite_none_right_eq_some.mp hstep
    grind

/-- Once the discovery returns, both wait forever. -/
theorem Blocked.deadlocks (hformed : s.Formed) (h : s.Blocked) :
    ∃ s', Runs step (fun _ _ => True) s s' ∧ s'.Deadlocked ∧
      ∀ s'', Runs step (fun _ _ => True) s' s'' → s''.Deadlocked := by
  have hforever : ∀ {s' : Connector}, s'.Deadlocked →
      ∀ s'', Runs step (fun _ _ => True) s' s'' → s''.Deadlocked :=
    fun hdead s'' hrun => hrun.invariant (I := Deadlocked)
      (fun _ _ _ _ hstep hdead => hdead.step hstep) hdead
  obtain ⟨hstopping, hfull, w, hw, hapi⟩ := h
  cases hphase : (s.discovery w.1).api with
  | done => exact absurd hphase hapi
  | sending =>
    have hdead : s.Deadlocked := ⟨hstopping, hfull, w, hw, hphase⟩
    exact ⟨s, .refl s, hdead, hforever hdead⟩
  | running =>
    have hdead : (s.setDiscovery w.1 { s.discovery w.1 with api := .sending }).Deadlocked := by
      refine ⟨hstopping, hfull, w, hw, ?_⟩
      rw [setDiscovery_discovery, if_pos rfl]
    refine ⟨_, (Runs.refl s).next (.apiReturns w.1) trivial ?_, hdead, hforever hdead⟩
    exact if_pos ⟨hformed.waiting w hw, hphase⟩

theorem formed_init : init.Formed := ⟨nofun, nofun⟩

theorem sound_init : init.Sound := (sound_iff_of_waiting rfl).mpr nofun

/-- In every run there is at most one discovery for a name.  While events are orderly, they are of
nodes that are there and nothing waits forever.  Another event starts a discovery for a node that is
gone, or a wait for what will never come. -/
theorem one_discovery_per_node (s : Connector) :
    (Runs step (fun _ _ => True) init s →
      (∀ i j, s.Holds i → s.Holds j → (s.discovery i).name = (s.discovery j).name → i = j) ∧
      (s.Blocked → ∃ s', Runs step (fun _ _ => True) s s' ∧ s'.Deadlocked ∧
        ∀ s'', Runs step (fun _ _ => True) s' s'' → s''.Deadlocked)) ∧
    (Runs step Orderly init s →
      (s.waiting = none → ∀ id, s.Holds id → s.last (s.discovery id).name = some .added) ∧
      ¬s.Deadlocked ∧
      ∀ e s', s.step e = some s' → (s'.Sound ↔ s.Orderly e)) := by
  have hformed : Runs step (fun _ _ => True) init s → s.Formed :=
    fun hrun => hrun.invariant (I := Formed) (fun _ _ _ _ hstep h => h.step hstep) formed_init
  constructor
  · intro hrun
    refine ⟨?_, Blocked.deadlocks (hformed hrun)⟩
    rintro i j ⟨name, hi⟩ ⟨name', hj⟩ heq
    rw [((hformed hrun).named name i hi).2, ((hformed hrun).named name' j hj).2] at heq
    simp_all
  · intro hrun
    have hinv : s.Formed ∧ s.Sound := hrun.invariant (I := fun s => s.Formed ∧ s.Sound)
      (fun _ _ _ horderly hstep h => ⟨h.1.step hstep, (h.2.step_iff h.1 hstep).mpr horderly⟩)
      ⟨formed_init, sound_init⟩
    refine ⟨?_, ?_, fun e s' hstep => hinv.2.step_iff hinv.1 hstep⟩
    · rintro hwaiting id ⟨name, hid⟩
      rw [(hinv.1.named name id hid).2]
      exact (sound_iff_of_waiting hwaiting).mp hinv.2 name id hid
    · rintro ⟨hstopping, hfull, w, hw, hapi⟩
      refine hinv.2.free ⟨hstopping, hfull, w, hw, ?_⟩
      rw [hapi]
      decide

/-! ## Two nodes -/

/-- One of two discoveries fails, and is started again. -/
def restartRun : List ConnectorEvent :=
  [.node .added "a", .node .added "b", .apiReturns 0, .apiSends 0, .signal, .monitorReturns 0,
    .waited]

theorem one_discovery_per_node_restarted :
    ∃ s, Runs step Orderly init s ∧ s.nodes "a" = some 2 ∧ s.nodes "b" = some 1 ∧
      s.last (s.discovery 2).name = some .added ∧ ¬s.Deadlocked := by
  have hsome : (restartRun.foldlM (fun s e => if Orderly s e then step s e else none) init).any
      (fun s => s.waiting = none ∧ s.nodes "a" = some 2 ∧ s.nodes "b" = some 1) = true := by
    decide
  obtain ⟨s, hs, hwell⟩ := (Option.any_eq_true _ _).mp hsome
  obtain ⟨hwaiting, ha, hb⟩ := of_decide_eq_true hwell
  have hrun : Runs step Orderly init s := Runs.of_guarded _ _ _ hs
  obtain ⟨hpresent, hfree, -⟩ := (one_discovery_per_node s).2 hrun
  exact ⟨s, hrun, ha, hb, hpresent hwaiting 2 ⟨"a", ha⟩, hfree⟩

/-- The signal of a discovery that was shut down starts a new one.  And the connector waits for a
discovery while the signal of another fills the channel. -/
theorem discovery_of_deleted_node :
    (∃ s, Runs step (fun _ _ => True) init s ∧ s.waiting = none ∧ s.nodes "a" = some 1 ∧
        s.last "a" = some .deleted) ∧
      ∃ s, Runs step (fun _ _ => True) init s ∧ s.Deadlocked := by
  have hgone : ([.node .added "a", .node .deleted "a", .apiReturns 0, .apiSends 0,
      .monitorReturns 0, .waited, .signal].foldlM step init).any
        (fun s => s.waiting = none ∧ s.nodes "a" = some 1 ∧ s.last "a" = some .deleted) = true := by
    decide
  have hdead : ([.node .added "a", .node .added "b", .apiReturns 1, .apiSends 1,
      .node .deleted "a", .apiReturns 0].foldlM step init).any (fun s => s.Deadlocked) = true := by
    decide
  obtain ⟨s, hs, hgone⟩ := (Option.any_eq_true _ _).mp hgone
  obtain ⟨s', hs', hdead⟩ := (Option.any_eq_true _ _).mp hdead
  exact ⟨⟨s, Runs.of_foldlM _ _ _ hs, of_decide_eq_true hgone⟩,
    s', Runs.of_foldlM _ _ _ hs', of_decide_eq_true hdead⟩

end Connector

end AkashProvider.Operator
