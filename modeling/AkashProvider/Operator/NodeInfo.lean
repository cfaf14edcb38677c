import AkashProvider.Operator.Labels

/-!
# Capacity of a node

The status of a node has two maps from resource names to quantities; the lists here are the
entries in the order in which they are ranged over.  `updateNodeInfo` writes a quantity for each
name that it knows, and the others keep their value (`updateNodeInfo_eq`), but for the
interconnect.  Its name is found by patterns, in any order (`matchInterconnectResourceName_perm`).
-/

namespace AkashProvider.Operator

open InventoryV1 (Quantity ResourcePair Node)
open Kube (ResourceList)

/-! ## Names of the interconnect -/

def defaultInterconnectResourcePattern : String := "rdma/rdma_shared_device_*"

section

-- `filepath.Match`, which is `none` for a pattern that is not well formed
variable (filepathMatch : String → String → Option Bool)

def resourcePatternMatches (pattern name : String) : Bool :=
  if !pattern.toList.any (fun c => c = '*' || c = '?' || c = '[') then
    pattern.toList.isPrefixOf name.toList
  else (filepathMatch pattern name).getD false

/-- One round of the inner loop: the smallest name that matches. -/
def betterName (pattern best name : String) : String :=
  if resourcePatternMatches filepathMatch pattern name ∧ (best = "" ∨ name < best) then name
  else best

def matchInterconnectResourceName (quantities : ResourceList) (patterns : List String) :
    String :=
  let effective := if patterns = [] then [defaultInterconnectResourcePattern] else patterns
  (effective.findSome? fun p =>
    let best := (quantities.map (·.1)).foldl (betterName filepathMatch p) ""
    if best ≠ "" then some best else none).getD ""

end

/-! ## The status -/

structure NodeStatus where
  allocatable : ResourceList
  capacity : ResourceList
  allocatable_distinct : (allocatable.map (·.1)).Nodup
  capacity_distinct : (capacity.map (·.1)).Nodup
  allocatable_named : "" ∉ allocatable.map (·.1)
  capacity_named : "" ∉ capacity.map (·.1)

/-- The same maps, in another order. -/
@[grind cases]
structure NodeStatus.Same (a b : NodeStatus) : Prop where
  allocatable : a.allocatable.Perm b.allocatable
  capacity : a.capacity.Perm b.capacity

/-- `Value()` rounds away from zero. -/
def Quantity.value (q : Quantity) : Int :=
  if 0 ≤ q then (q + 999) / 1000 else -((-q + 999) / 1000)

/-- What is written for a quantity.  The CPU is read in thousandths, the others in whole units. -/
def writtenFor (r : NodeResource) (q : Quantity) : Quantity :=
  match r with
  | .cpu => q
  | _ => 1000 * Quantity.value q

def nodeAllocatableChanged (prev curr : ResourceList) : Bool :=
  prev.length ≠ curr.length || prev.any fun e =>
    match curr.lookup e.1 with
    | none => true
    | some cval => Quantity.value e.2 ≠ Quantity.value cval

def setAllocatable (node : Node) (e : String × Quantity) : Node :=
  match countedOn node.capabilities.interconnectResourceName e.1 with
  | none => node
  | some r => node.setPair r { node.resources.pair r with allocatable := some (writtenFor r e.2) }

def setCapacity (node : Node) (e : String × Quantity) : Node :=
  match countedOn node.capabilities.interconnectResourceName e.1 with
  | none => node
  | some r => node.setPair r { node.resources.pair r with capacity := some (writtenFor r e.2) }

section

variable (filepathMatch : String → String → Option Bool)

/-- The interconnect that a node advertises. -/
def interconnectResource (status : NodeStatus) (patterns : List String) : String :=
  let name := matchInterconnectResourceName filepathMatch status.allocatable patterns
  if name = "" then matchInterconnectResourceName filepathMatch status.capacity patterns else name

def updateNodeInfo (status : NodeStatus) (node : Node) (patterns : List String) : Node :=
  let node := node.setPair .gpuInterconnect
    { node.resources.gpuInterconnect with capacity := some 0, allocatable := some 0 }
  let node := { node with
    capabilities.interconnectResourceName := interconnectResource filepathMatch status patterns }
  status.capacity.foldl setCapacity (status.allocatable.foldl setAllocatable node)

end

/-! ## What is written -/

/-- The entries of a list that are counted on a quantity. -/
def entriesFor (interconnect : String) (l : ResourceList) (r : NodeResource) : List Quantity :=
  l.filterMap fun e => if countedOn interconnect e.1 = some r then some (writtenFor r e.2) else none

theorem pair_setPair (node : Node) (r k : NodeResource) (rp : ResourcePair) :
    (node.setPair r rp).resources.pair k = if k = r then rp else node.resources.pair k := by
  cases r <;> cases k <;> rfl

theorem entriesFor_cons (interconnect : String) (e : String × Quantity) (l : ResourceList)
    (r : NodeResource) : entriesFor interconnect (e :: l) r =
      (if countedOn interconnect e.1 = some r then [writtenFor r e.2] else []) ++
        entriesFor interconnect l r := by
  unfold entriesFor
  by_cases h : countedOn interconnect e.1 = some r
  · simp [h]
  · simp [h]

theorem pair_foldl_set (interconnect : String) (set : ResourcePair → Quantity → ResourcePair)
    (f : Node → String × Quantity → Node) (hset : ∀ rp a b, set (set rp a) b = set rp b)
    (hf : ∀ node e, node.capabilities.interconnectResourceName = interconnect →
      f node e = match countedOn interconnect e.1 with
        | none => node
        | some r => node.setPair r (set (node.resources.pair r) (writtenFor r e.2)))
    (l : ResourceList) : ∀ node : Node,
      node.capabilities.interconnectResourceName = interconnect →
      (l.foldl f node).capabilities = node.capabilities ∧
        (l.foldl f node).resources.gpu.info = node.resources.gpu.info ∧
        ∀ r, (l.foldl f node).resources.pair r =
          match (entriesFor interconnect l r).getLast? with
          | none => node.resources.pair r
          | some q => set (node.resources.pair r) q := by
  induction l with
  | nil =>
    intro node _
    exact ⟨rfl, rfl, fun r => rfl⟩
  | cons e l ih =>
    intro node hic
    rw [List.foldl_cons, hf node e hic]
    cases hcount : countedOn interconnect e.1 with
    | none => simp_all [entriesFor_cons]
    | some k =>
      obtain ⟨hcaps, hinfo, hpair⟩ :=
        ih (node.setPair k (set (node.resources.pair k) (writtenFor k e.2))) hic
      refine ⟨hcaps, hinfo.trans (by cases k <;> rfl), fun r => ?_⟩
      rw [hpair r, entriesFor_cons, hcount, pair_setPair]
      by_cases hr : r = k
      · subst hr
        rw [if_pos rfl, if_pos rfl, List.singleton_append, List.getLast?_cons]
        cases (entriesFor interconnect l r).getLast? with
        | none => rfl
        | some q => exact hset _ _ _
      · grind

variable {filepathMatch : String → String → Option Bool}

/-- The pair of a quantity before the loops: the interconnect is reset. -/
def pairBefore (node : Node) (r : NodeResource) : ResourcePair :=
  if r = .gpuInterconnect then
    { node.resources.gpuInterconnect with capacity := some 0, allocatable := some 0 }
  else node.resources.pair r

theorem updateNodeInfo_eq (status : NodeStatus) (node : Node) (patterns : List String) :
    let ic := interconnectResource filepathMatch status patterns
    let node' := updateNodeInfo filepathMatch status node patterns
    node'.capabilities = { node.capabilities with interconnectResourceName := ic } ∧
      node'.resources.gpu.info = node.resources.gpu.info ∧
      ∀ r, node'.resources.pair r =
        { capacity := (entriesFor ic status.capacity r).getLast?.or (pairBefore node r).capacity
          allocatable :=
            (entriesFor ic status.allocatable r).getLast?.or (pairBefore node r).allocatable
          allocated := (node.resources.pair r).allocated } := by
  intro ic node'
  let start : Node := { node.setPair .gpuInterconnect
      { node.resources.gpuInterconnect with capacity := some 0, allocatable := some 0 } with
    capabilities := { node.capabilities with interconnectResourceName := ic } }
  have hstart : ∀ r, start.resources.pair r = pairBefore node r := by
    intro r
    exact pair_setPair node .gpuInterconnect r _
  obtain ⟨hcaps, hinfo, hpair⟩ := pair_foldl_set ic
    (fun rp q => { rp with allocatable := some q }) setAllocatable (fun _ _ _ => rfl)
    (fun node e hic => by rw [setAllocatable, hic]) status.allocatable start rfl
  obtain ⟨hcaps', hinfo', hpair'⟩ := pair_foldl_set ic
    (fun rp q => { rp with capacity := some q }) setCapacity (fun _ _ _ => rfl)
    (fun node e hic => by rw [setCapacity, hic]) status.capacity
    (status.allocatable.foldl setAllocatable start) (by rw [hcaps])
  refine ⟨hcaps'.trans hcaps, hinfo'.trans hinfo, fun r => ?_⟩
  have hallocated : (pairBefore node r).allocated = (node.resources.pair r).allocated := by
    unfold pairBefore
    split
    next hr => rw [hr]; rfl
    next => rfl
  refine (hpair' r).trans ?_
  rw [hpair r, hstart r, ← hallocated]
  cases (entriesFor ic status.capacity r).getLast? <;>
    cases (entriesFor ic status.allocatable r).getLast? <;> rfl

/-! ## Order -/

theorem betterName_comm {a b : String} (ha : a ≠ "") (hb : b ≠ "") (pattern best : String) :
    betterName filepathMatch pattern (betterName filepathMatch pattern best a) b =
      betterName filepathMatch pattern (betterName filepathMatch pattern best b) a := by
  unfold betterName
  grind

theorem matchInterconnectResourceName_perm {l l' : ResourceList} (h : l.Perm l')
    (hnamed : "" ∉ l.map (·.1)) (patterns : List String) :
    matchInterconnectResourceName filepathMatch l patterns =
      matchInterconnectResourceName filepathMatch l' patterns := by
  have hbest : ∀ p, (l.map (·.1)).foldl (betterName filepathMatch p) "" =
      (l'.map (·.1)).foldl (betterName filepathMatch p) "" := by
    intro p
    refine (h.map _).foldl_eq' ?_ ""
    grind [betterName_comm]
  simp only [matchInterconnectResourceName, hbest]

theorem NodeStatus.Same.interconnectResource_eq {a b : NodeStatus} (h : a.Same b)
    (patterns : List String) :
    interconnectResource filepathMatch a patterns =
      interconnectResource filepathMatch b patterns := by
  unfold interconnectResource
  rw [matchInterconnectResourceName_perm h.allocatable a.allocatable_named,
    matchInterconnectResourceName_perm h.capacity a.capacity_named]

end AkashProvider.Operator
