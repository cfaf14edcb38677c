import AkashProvider.Operator.PodRequests

/-!
# Labels of nodes

Node discovery labels every node that takes workloads with its storage classes and its GPUs.  A
label with a positive count belongs to a device or a storage class (`positive_generateLabels`).
The texts are joined with dots, so a device can be read off a label only if its vendor and name
have none (`mem_deviceKeys_iff`).
-/

namespace AkashProvider.Operator

open InventoryV1 (Node GPUInfo)
open Kube (NodeSelectorRequirement setLabel)
open Kube.Workload (gpuModelKey storageClassKey)

/-! ## Nodes of the cluster -/

inductive TaintEffect where
  | noSchedule
  | noExecute
  | preferNoSchedule
deriving DecidableEq

/-- A node as Kubernetes has it. -/
structure KubeNode where
  name : String
  taints : List TaintEffect
  unschedulable : Bool
  /-- The types of the conditions with their statuses. -/
  conditions : List (String × String)
  labels : Labels

def isNodeReady (node : KubeNode) : Bool :=
  node.taints.all (· = .preferNoSchedule) ∧ node.conditions.lookup "Ready" = some "True"

/-- What the configuration says of a node: whether it is excluded, and which storage classes it
may use of those that are present. -/
structure NodeConfig where
  isNodeExcluded : String → Bool
  storageClassesForNode : List String → String → List String

def isExcluded (cfg : NodeConfig) (knode : KubeNode) : Bool :=
  !isNodeReady knode || knode.unschedulable || cfg.isNodeExcluded knode.name

/-! ## Generated labels -/

def labelNvidiaComGPUPresent : String := Kube.resourceGPUNvidia ++ ".present"

/-- `strconv.ParseUint(val, 10, 32)` with the error dropped. -/
def parseUint32 (val : String) : UInt64 :=
  if (Go.parseUint val).1 > maxUint32 then maxUint32 else (Go.parseUint val).1

/-- One more device under the key. -/
def countLabel (labels : Labels) (key : String) : Labels :=
  setLabel labels key (match labels.lookup key with
    | some val => Go.formatUint (parseUint32 val + 1)
    | none => "1")

def deviceLabels (S : Sdk) (labels : Labels) (info : GPUInfo) : Labels :=
  let labels :=
    if info.vendor = "nvidia" ∧ labels.lookup labelNvidiaComGPUPresent ≠ some "true" then
      setLabel labels labelNvidiaComGPUPresent "true"
    else labels
  let key := gpuModelKey info.vendor info.name
  let labels := countLabel labels key
  let labels := if info.memorySize ≠ "" then
    countLabel labels (key ++ ".ram." ++ info.memorySize) else labels
  if info.interface ≠ "" then
    countLabel labels (key ++ ".interface." ++ filterGPUInterface S info.interface)
  else labels

/-- The labels of a node, and the node with its storage classes.  `presentSc` are the classes
that are present, in order. -/
def generateLabels (S : Sdk) (cfg : NodeConfig) (knode : KubeNode) (node : Node)
    (presentSc : List String) : Labels × Node :=
  if isExcluded cfg knode then ([], { node with capabilities.storageClasses := [] })
  else
    let allowedSc := cfg.storageClassesForNode presentSc knode.name
    let labels := allowedSc.foldl
      (fun labels c => setLabel labels (storageClassKey c) "1")
      [(akashManagedLabelName, "true")]
    (node.resources.gpu.info.foldl (deviceLabels S) labels,
      { node with capabilities.storageClasses := allowedSc })

def isLabelManaged (key : String) : Bool :=
  akashManagedLabelName.toList.isPrefixOf key.toList ∨ key = labelNvidiaComGPUPresent

/-- The labels that the node is patched to have: those generated, and those of others. -/
def patchedLabels (knode : KubeNode) (generated : Labels) : Labels :=
  knode.labels.filter (fun e => !isLabelManaged e.1) ++ generated

/-! ## Selectors -/

/-- `Gt`: both are integers, and the value is the greater one. -/
def greater (value bound : String) : Bool :=
  match Go.parseInt value, Go.parseInt bound with
  | some a, some b => b < a
  | _, _ => false

/-- What the scheduler asks of the labels of a node. -/
def meets (labels : Labels) (req : NodeSelectorRequirement) : Bool :=
  match labels.lookup req.key, req.operator, req.values with
  | some value, .opIn, values => value ∈ values
  | some value, .opGt, [bound] => greater value bound
  | _, _, _ => false

/-- The labels meet the affinity of the pods to nodes. -/
def Schedulable (labels : Labels) (affinity : Kube.Affinity) : Prop :=
  ∀ req ∈ affinity.nodeAffinity, meets labels req = true

instance (labels : Labels) (affinity : Kube.Affinity) : Decidable (Schedulable labels affinity) :=
  by unfold Schedulable; infer_instance

/-! ## Counts -/

theorem lookup_setLabel (labels : Labels) (key value k : String) :
    (setLabel labels key value).lookup k = if k = key then some value else labels.lookup k := by
  unfold setLabel
  rw [List.lookup_cons]
  by_cases hk : k = key
  · simp [hk]
  · have hbeq : (k == key) = false := beq_eq_false_iff_ne.mpr hk
    rw [hbeq, if_neg hk]
    induction labels with
    | nil => rfl
    | cons e rest ih => grind

/-- The label of the key has a positive count. -/
def Positive (labels : Labels) (key : String) : Prop :=
  meets labels (Kube.Workload.labelGt key) = true

variable {labels : Labels}

theorem positive_iff {key : String} :
    Positive labels key ↔ ∃ value, labels.lookup key = some value ∧ greater value "0" = true := by
  unfold Positive meets Kube.Workload.labelGt
  cases labels.lookup key <;> simp

theorem positive_setLabel {key value k : String} (hvalue : greater value "0" = true) :
    Positive (setLabel labels key value) k ↔ k = key ∨ Positive labels k := by
  rw [positive_iff, positive_iff, lookup_setLabel]
  by_cases hk : k = key
  · simp [hk, hvalue]
  · simp [hk]

theorem parseUint32_le (val : String) : (parseUint32 val).toNat ≤ 4294967295 := by
  unfold parseUint32
  split
  next => decide
  next h => exact UInt64.le_iff_toNat_le.mp (UInt64.not_lt.mp h)

theorem greater_count (val : String) :
    greater (Go.formatUint (parseUint32 val + 1)) "0" = true := by
  have hle := parseUint32_le val
  have hsum : (parseUint32 val + 1).toNat = (parseUint32 val).toNat + 1 := by
    rw [UInt64.toNat_add]
    grind
  have hparse := Go.parseInt_formatUint (n := parseUint32 val + 1) (by omega)
  have hzero : Go.parseInt "0" = some 0 := by decide
  simp only [greater, hparse, hzero, hsum]
  rw [decide_eq_true_iff]
  omega

theorem positive_countLabel {key k : String} :
    Positive (countLabel labels key) k ↔ k = key ∨ Positive labels k := by
  refine positive_setLabel ?_
  split
  next val _ => exact greater_count val
  next => decide

def deviceKeys (S : Sdk) (info : GPUInfo) : List String :=
  let key := gpuModelKey info.vendor info.name
  key :: (if info.memorySize ≠ "" then [key ++ ".ram." ++ info.memorySize] else []) ++
    if info.interface ≠ "" then
      [key ++ ".interface." ++ filterGPUInterface S info.interface] else []

theorem positive_countLabel_if {key k : String} {c : Prop} [Decidable c] :
    Positive (if c then countLabel labels key else labels) k ↔
      k ∈ (if c then [key] else []) ∨ Positive labels k := by
  split
  next => rw [positive_countLabel, List.mem_singleton]
  next => simp

variable {S : Sdk} {info : GPUInfo} {k : String}

theorem positive_deviceLabels (hk : k ≠ labelNvidiaComGPUPresent) :
    Positive (deviceLabels S labels info) k ↔ k ∈ deviceKeys S info ∨ Positive labels k := by
  have hpresent : Positive (if info.vendor = "nvidia" ∧
      labels.lookup labelNvidiaComGPUPresent ≠ some "true" then
        setLabel labels labelNvidiaComGPUPresent "true" else labels) k ↔ Positive labels k := by
    split
    next => rw [positive_iff, positive_iff, lookup_setLabel, if_neg hk]
    next => rfl
  simp only [deviceLabels, deviceKeys, positive_countLabel_if, positive_countLabel, hpresent,
    List.cons_append, List.mem_cons, List.mem_append]
  tauto

theorem positive_foldl_deviceLabels (hk : k ≠ labelNvidiaComGPUPresent) (infos : List GPUInfo) :
    ∀ labels : Labels,
      Positive (infos.foldl (deviceLabels S) labels) k ↔
        (∃ info ∈ infos, k ∈ deviceKeys S info) ∨ Positive labels k := by
  induction infos with
  | nil => simp
  | cons info rest ih => grind [positive_deviceLabels]

theorem positive_foldl_setLabel (classes : List String) : ∀ labels : Labels,
    Positive (classes.foldl (fun l c => setLabel l (storageClassKey c) "1") labels) k ↔
      (∃ c ∈ classes, k = storageClassKey c) ∨ Positive labels k := by
  induction classes with
  | nil => simp
  | cons c rest ih =>
    intro labels
    rw [List.foldl_cons, ih, positive_setLabel (by decide), List.exists_mem_cons_iff,
      or_left_comm, or_assoc]

theorem positive_generateLabels {cfg : NodeConfig} {knode : KubeNode} {node : Node}
    {presentSc : List String} (hincluded : isExcluded cfg knode = false)
    (hk : k ≠ labelNvidiaComGPUPresent) :
    Positive (generateLabels S cfg knode node presentSc).1 k ↔
      (∃ info ∈ node.resources.gpu.info, k ∈ deviceKeys S info) ∨
      ∃ c ∈ (generateLabels S cfg knode node presentSc).2.capabilities.storageClasses,
        k = storageClassKey c := by
  have hmanaged : ¬ Positive [(akashManagedLabelName, "true")] k := by
    rw [positive_iff]
    rintro ⟨value, hlookup, hgreater⟩
    rw [List.lookup_cons] at hlookup
    cases hbeq : k == akashManagedLabelName with
    | true =>
      rw [hbeq] at hlookup
      obtain rfl := Option.some.inj hlookup
      exact absurd hgreater (by decide)
    | false =>
      rw [hbeq] at hlookup
      cases hlookup
  grind [generateLabels, positive_foldl_deviceLabels, positive_foldl_setLabel]

/-! ## Keys -/

theorem deviceKeys_eq_append (h : k ∈ deviceKeys S info) :
    ∃ t, k = Kube.akashServiceCapabilityGPU ++ t := by
  simp only [deviceKeys, gpuModelKey, List.cons_append, List.mem_cons, List.mem_append,
    List.mem_ite_nil_right, List.not_mem_nil, or_false, String.append_assoc] at h
  grind

theorem gpuModelKey_inj {v v' m m' : String} (hv : '.' ∉ v.toList) (hm : '.' ∉ m.toList)
    (h : gpuModelKey v m = gpuModelKey v' m') : v = v' ∧ m = m' := by
  simp only [gpuModelKey, ← String.toList_inj, String.toList_append, List.append_assoc,
    List.append_cancel_left_eq] at h
  -- the two dots of `.model.` are the only ones on either side
  have hv' : '.' ∉ v'.toList := by
    have hcount := congrArg (List.count '.') h
    grind
  have hdot : ".model.".toList = '.' :: "model.".toList := by decide
  obtain ⟨hvendor, hrest⟩ := Go.append_cons_inj_left hv hv' h
  exact ⟨String.toList_inj.mp hvendor, String.toList_inj.mp (List.append_cancel_left hrest)⟩

/-- The count of a model without dots is about devices of that vendor and model. -/
theorem mem_deviceKeys_iff {v m : String} (hv : '.' ∉ v.toList) (hm : '.' ∉ m.toList) :
    gpuModelKey v m ∈ deviceKeys S info ↔ info.vendor = v ∧ info.name = m := by
  have hlonger : ∀ part rest : String, '.' ∈ part.toList → gpuModelKey v m ≠
      gpuModelKey info.vendor info.name ++ part ++ rest := by
    intro part rest hpart heq
    have hkey : gpuModelKey info.vendor info.name ++ part ++ rest =
        gpuModelKey info.vendor (info.name ++ part ++ rest) := by
      simp only [gpuModelKey, String.append_assoc]
    obtain ⟨-, rfl⟩ := gpuModelKey_inj hv hm (heq.trans hkey)
    exact hm (by simp [hpart])
  simp only [deviceKeys, List.cons_append, List.mem_cons, List.mem_append,
    List.mem_ite_nil_right, List.not_mem_nil, or_false, hlonger ".ram." _ (by decide),
    hlonger ".interface." _ (by decide), and_false]
  constructor
  · grind [gpuModelKey_inj]
  · rintro ⟨rfl, rfl⟩
    rfl

theorem gpuModelKey_ne_present (v m : String) :
    gpuModelKey v m ≠ labelNvidiaComGPUPresent := by
  intro h
  simp only [gpuModelKey, labelNvidiaComGPUPresent, String.append_assoc] at h
  exact absurd (Go.prefix_or_prefix_of_append_eq h) (by decide)

theorem storageClassKey_ne_present (c : String) :
    storageClassKey c ≠ labelNvidiaComGPUPresent := by
  intro h
  exact absurd (Go.prefix_or_prefix_of_append_eq h) (by decide)

theorem storageClassKey_notMem_deviceKeys (S : Sdk) (info : GPUInfo) (c : String) :
    storageClassKey c ∉ deviceKeys S info := by
  intro h
  obtain ⟨t, h⟩ := deviceKeys_eq_append h
  exact absurd (Go.prefix_or_prefix_of_append_eq h) (by decide)

theorem isLabelManaged_append {p : String} (hp : akashManagedLabelName.toList <+: p.toList)
    (t : String) : isLabelManaged (p ++ t) = true := by
  grind [List.prefix_append, isLabelManaged, String.toList_append]

/-! ## Labelled nodes -/

/-- The labels of the node of an inventory: what is published of the node comes with them. -/
inductive Labelled (S : Sdk) (cfg : NodeConfig) (presentSc : List String) (nd : Node) :
    Labels → Prop
  | intro {knode : KubeNode} {node : Node} (included : isExcluded cfg knode = false)
      (info_eq : node.resources.gpu.info = nd.resources.gpu.info)
      (capabilities_eq :
        (generateLabels S cfg knode node presentSc).2.capabilities = nd.capabilities) :
      Labelled S cfg presentSc nd
        (patchedLabels knode (generateLabels S cfg knode node presentSc).1)

theorem lookup_patchedLabels (knode : KubeNode) (generated : Labels)
    (hk : isLabelManaged k = true) :
    (patchedLabels knode generated).lookup k = generated.lookup k := by
  have hnone : (knode.labels.filter (fun e => !isLabelManaged e.1)).lookup k = none := by grind
  rw [patchedLabels, List.lookup_append, hnone, Option.none_or]

theorem lookup_deviceLabels (hk : k ∉ deviceKeys S info) (hpresent : k ≠ labelNvidiaComGPUPresent) :
    (deviceLabels S labels info).lookup k = labels.lookup k := by
  simp only [deviceKeys, List.cons_append, List.mem_cons, List.mem_append,
    List.mem_ite_nil_right, List.not_mem_nil, or_false, not_or, not_and] at hk
  grind [deviceLabels, countLabel, lookup_setLabel]

theorem lookup_foldl_deviceLabels (hpresent : k ≠ labelNvidiaComGPUPresent) (infos : List GPUInfo) :
    ∀ labels : Labels, (∀ info ∈ infos, k ∉ deviceKeys S info) →
      (infos.foldl (deviceLabels S) labels).lookup k = labels.lookup k := by
  induction infos with
  | nil =>
    intro labels _
    rfl
  | cons info rest ih => grind [lookup_deviceLabels]

theorem lookup_foldl_setLabel (classes : List String) : ∀ labels : Labels,
    (∀ c ∈ classes, k ≠ storageClassKey c) →
      (classes.foldl (fun l c => setLabel l (storageClassKey c) "1") labels).lookup k =
        labels.lookup k := by
  induction classes with
  | nil =>
    intro labels _
    rfl
  | cons c rest ih => simp_all [List.foldl_cons, lookup_setLabel]

namespace Labelled

variable {S : Sdk} {cfg : NodeConfig} {presentSc : List String} {nd : Node} {labels : Labels}

theorem managed (h : Labelled S cfg presentSc nd labels) :
    meets labels (Kube.Workload.labelTrue akashManagedLabelName) = true := by
  obtain ⟨included, -, -⟩ := h
  have hlookup : ∀ (knode : KubeNode) (node : Node), isExcluded cfg knode = false →
      (generateLabels S cfg knode node presentSc).1.lookup akashManagedLabelName = some "true" := by
    intro knode node hincluded
    simp only [generateLabels, hincluded, Bool.false_eq_true, if_false]
    rw [lookup_foldl_deviceLabels, lookup_foldl_setLabel]
    · rfl
    · intro c _ hkey
      exact absurd (Go.prefix_of_eq_append hkey) (by decide)
    · decide
    · intro info _ hkey
      obtain ⟨t, hkey⟩ := deviceKeys_eq_append hkey
      exact absurd (Go.prefix_of_eq_append hkey) (by decide)
  simp only [meets, Kube.Workload.labelTrue]
  rw [lookup_patchedLabels _ _ (by decide), hlookup _ _ included]
  decide

theorem positive_iff (h : Labelled S cfg presentSc nd labels) {k : String}
    (hmanaged : isLabelManaged k = true) (hpresent : k ≠ labelNvidiaComGPUPresent) :
    Positive labels k ↔ (∃ info ∈ nd.resources.gpu.info, k ∈ deviceKeys S info) ∨
      ∃ c ∈ nd.capabilities.storageClasses, k = storageClassKey c := by
  obtain ⟨included, info_eq, capabilities_eq⟩ := h
  rw [← info_eq, ← capabilities_eq, ← positive_generateLabels included hpresent,
    Operator.positive_iff, Operator.positive_iff, lookup_patchedLabels _ _ hmanaged]

theorem positive_gpuModelKey (h : Labelled S cfg presentSc nd labels) {v m : String}
    (hv : '.' ∉ v.toList) (hm : '.' ∉ m.toList) :
    Positive labels (gpuModelKey v m) ↔
      ∃ info ∈ nd.resources.gpu.info, info.vendor = v ∧ info.name = m := by
  have hmanaged : isLabelManaged (gpuModelKey v m) = true := by
    simp only [gpuModelKey, String.append_assoc]
    exact isLabelManaged_append (by decide) _
  have hstorage : ∀ c, gpuModelKey v m ≠ storageClassKey c := by
    intro c heq
    refine storageClassKey_notMem_deviceKeys S ⟨v, m, "", ""⟩ c ?_
    rw [← heq, mem_deviceKeys_iff hv hm]
    exact ⟨rfl, rfl⟩
  grind [positive_iff, gpuModelKey_ne_present, mem_deviceKeys_iff]

theorem positive_storageClassKey (h : Labelled S cfg presentSc nd labels) (c : String) :
    Positive labels (storageClassKey c) ↔ c ∈ nd.capabilities.storageClasses := by
  have hmanaged : isLabelManaged (storageClassKey c) = true := by
    exact isLabelManaged_append (by decide) _
  have hinj : ∀ c', storageClassKey c = storageClassKey c' ↔ c = c' := by
    intro c'
    simp only [storageClassKey, ← String.toList_inj, String.toList_append,
      List.append_cancel_left_eq]
  rw [h.positive_iff hmanaged (storageClassKey_ne_present c)]
  simp only [storageClassKey_notMem_deviceKeys, and_false, exists_false, false_or, hinj,
    exists_eq_right']

end Labelled

end AkashProvider.Operator
