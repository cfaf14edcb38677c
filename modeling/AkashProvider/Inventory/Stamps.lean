import AkashProvider.Lib.Assoc
import AkashProvider.Inventory.Interconnect

/-!
# The GPU attribute that a replica is stamped with

`tryAdjustGPU` replaces the GPU attributes of a request by one, whose key names the device that was
matched.  The key is put together with slashes.  `ParseGPUAttributes` takes it apart for the next
replica, and `parseGPU` for the pricing script.

A device name without a slash is found again, so a stamped request asks for what was matched
(`gpu_stamp_reads_back`).  All replicas of a unit then get the same resources and scheduler
parameters (`replicas_get_offer`), also those that share one node, for which `Adjust` does not
compare them.
-/

namespace AkashProvider

open InventoryV1 (Node Cluster)
open Crd (SchedulerParams)

variable (S : Sdk)

/-! ## Stamps -/

/-- What the SDK prints for a memory size has no slash, and it is read as the size it is. -/
def MemoryRendering : Prop :=
  ∀ v q, S.memoryQuantity v = .ok q → '/' ∉ q.toList ∧ S.memoryQuantity q = .ok q

/-- The attributes of a model as `ParseGPUAttributes` leaves them. -/
def GPUModelAttributes.Parsed (a : GPUModelAttributes) : Prop :=
  (a.ram = "" ∨ ∃ v, S.memoryQuantity v = .ok a.ram) ∧
    (a.interface = "" ∨ a.interface = "pcie" ∨ a.interface = "sxm")

/-- The constraints in a stamp.  One that names neither memory nor interface is none. -/
def stampedAttributes (attr : Option GPUModelAttributes) : Option GPUModelAttributes :=
  attr.filter fun a => a.ram ≠ "" ∨ a.interface ≠ ""

def stampTokens (vendor model : String) (attr : Option GPUModelAttributes) : List String :=
  ["vendor", vendor, "model", model] ++ match attr with
    | none => []
    | some a => (if a.ram ≠ "" then ["ram", a.ram] else []) ++
      if a.interface ≠ "" then ["interface", a.interface] else []

variable {S}

theorem gpuKey_eq (vendor model : String) (attr : Option GPUModelAttributes) :
    gpuKey vendor model attr =
      (String.singleton '/').intercalate (stampTokens vendor model attr) := by
  refine String.toList_inj.mp ?_
  rw [String.toList_intercalate]
  unfold gpuKey stampTokens
  cases attr with
  | none => simp [List.intercalate]
  | some a =>
    by_cases hram : a.ram = "" <;> by_cases hinterface : a.interface = "" <;>
      simp [List.intercalate, hram, hinterface]

theorem parseModelAttributes_parsed {tokens : List String} {m m' : GPUModelAttributes}
    (hm : m.Parsed S) (h : parseModelAttributes S tokens m = .ok m') : m'.Parsed S := by
  fun_induction parseModelAttributes S tokens m with
  | case1 => cases h
  | case2 val rest m q hq ih => exact ih ⟨.inr ⟨val, hq⟩, hm.2⟩ h
  | case3 val rest m hval _ ih => exact ih ⟨hm.1, .inr hval⟩ h
  | case4 => cases h
  | case5 key val rest m hram hinterface ih => exact ih hm h
  | case6 =>
    cases h
    exact hm

/-- An attribute adds at most one model, with what was parsed. -/
theorem parseGPUAttribute_eq_ok {found found' : GPUModels × GPUModels} {attr : Attribute}
    (h : parseGPUAttribute S found attr = .ok found') :
    found' = found ∨ ∃ model mattrs, (∀ a ∈ mattrs, GPUModelAttributes.Parsed S a) ∧
      (found' = ((model, mattrs) :: found.1, found.2) ∨
        found' = (found.1, (model, mattrs) :: found.2)) := by
  unfold parseGPUAttribute at h
  split at h
  · exact .inl (Except.ok.inj h).symm
  simp only at h
  split at h
  · cases h
  split at h
  next t0 vendor t2 model rest _ =>
    split at h
    · cases h
    split at h
    · cases h
    split at h <;> obtain ⟨mattrs, hmattrs, h⟩ := Except.bind_eq_ok_iff.mp h
    · cases hmattrs
      exact .inr ⟨model, none, nofun, by grind⟩
    · obtain ⟨m, hm, rfl⟩ := Except.exists_of_map_eq_ok hmattrs
      refine .inr ⟨model, some m, ?_, by grind⟩
      rintro a ⟨⟩
      exact parseModelAttributes_parsed ⟨.inl rfl, .inl rfl⟩ hm
  next => cases h

/-- All attributes of the models are as they are parsed. -/
def AllParsed (S : Sdk) (models : GPUModels) : Prop :=
  ∀ x ∈ models, ∀ a ∈ x.2, GPUModelAttributes.Parsed S a

theorem foldlM_parseGPUAttribute_parsed :
    ∀ (attrs : Attributes) (found found' : GPUModels × GPUModels),
      AllParsed S found.1 ∧ AllParsed S found.2 →
      attrs.foldlM (parseGPUAttribute S) found = .ok found' →
      AllParsed S found'.1 ∧ AllParsed S found'.2
  | [], found, found', hfound, h => by
    cases h
    exact hfound
  | attr :: attrs, found, found', hfound, h => by
    obtain ⟨next, hnext, h⟩ := Except.bind_eq_ok_iff.mp h
    refine foldlM_parseGPUAttribute_parsed attrs next found' ?_ h
    obtain rfl | ⟨model, mattrs, hparsed, rfl | rfl⟩ := parseGPUAttribute_eq_ok hnext
    · exact hfound
    · exact ⟨List.forall_mem_cons.mpr ⟨hparsed, hfound.1⟩, hfound.2⟩
    · exact ⟨hfound.1, List.forall_mem_cons.mpr ⟨hparsed, hfound.2⟩⟩

theorem parseGPUAttributes_parsed {attrs : Attributes} {g : GPUAttributes}
    (h : parseGPUAttributes S attrs = .ok g) {vendor : String} {models : GPUModels}
    (hlookup : g.lookup vendor = some models) : AllParsed S models := by
  obtain ⟨found, hfound, h⟩ := Except.bind_eq_ok_iff.mp h
  have hall := foldlM_parseGPUAttribute_parsed attrs ([], []) found ⟨nofun, nofun⟩ hfound
  grind -ring -linarith

theorem matchGPU_parsed {attrs : Attributes} {g : GPUAttributes}
    (h : parseGPUAttributes S attrs = .ok g) {info : InventoryV1.GPUInfo}
    {attr : Option GPUModelAttributes} (hmatch : matchGPU S g info = some attr) :
    ∀ a ∈ attr, a.Parsed S := by
  unfold matchGPU at hmatch
  split at hmatch
  next => cases hmatch
  next models hlookup =>
    have hall := parseGPUAttributes_parsed h hlookup
    split at hmatch
    next => cases hmatch
    next =>
      cases hmatch
      nofun
    next a hexists =>
      have hparsed : a.Parsed S := by
        unfold GPUModels.existsOrWildcard at hexists
        split at hexists
        next hname =>
          cases hexists
          exact hall _ (Assoc.mem_of_lookup hname) a rfl
        next => exact hall _ (Assoc.mem_of_lookup hexists) a rfl
      grind -ring -linarith

/-- The tokens of a stamp have no slash. -/
theorem split_gpuKey (hmem : MemoryRendering S) {vendor model : String}
    (hvendor : vendor = "nvidia" ∨ vendor = "amd") (hmodel : '/' ∉ model.toList)
    {attr : Option GPUModelAttributes} (hattr : ∀ a ∈ attr, a.Parsed S) :
    Go.split (gpuKey vendor model attr) '/' = stampTokens vendor model attr := by
  rw [gpuKey_eq]
  refine Go.split_intercalate (by simp [stampTokens]) fun part hpart => ?_
  have hslash : '/' ∉ vendor.toList := by
    obtain rfl | rfl := hvendor <;> decide
  unfold stampTokens at hpart
  rw [List.mem_append] at hpart
  obtain hpart | hpart := hpart
  · simp only [List.mem_cons, List.not_mem_nil, or_false] at hpart
    obtain rfl | rfl | rfl | rfl := hpart
    · decide
    · exact hslash
    · decide
    · exact hmodel
  · cases attr with
    | none => cases hpart
    | some a =>
      obtain ⟨hram, hinterface⟩ := hattr a rfl
      obtain hpart | hpart := List.mem_append.mp hpart
      · obtain ⟨hne, hpart⟩ := List.mem_ite_nil_right.mp hpart
        obtain ⟨v, hv⟩ := hram.resolve_left hne
        obtain rfl | hpart := List.mem_cons.mp hpart
        · decide
        · rw [List.mem_singleton.mp hpart]
          exact (hmem v _ hv).1
      · obtain ⟨hne, hpart⟩ := List.mem_ite_nil_right.mp hpart
        obtain rfl | hpart := List.mem_cons.mp hpart
        · decide
        · rw [List.mem_singleton.mp hpart]
          obtain h | h := hinterface.resolve_left hne <;> rw [h] <;> decide

/-- The tokens of a stamp are read back. -/
theorem parse_stamp (hmem : MemoryRendering S) {vendor model : String}
    (hvendor : vendor = "nvidia" ∨ vendor = "amd") (hmodel : '/' ∉ model.toList)
    {attr : Option GPUModelAttributes} (hattr : ∀ a ∈ attr, a.Parsed S) :
    parseGPUAttributes S [⟨gpuKey vendor model attr, "true"⟩] =
      .ok [(vendor, [(model, stampedAttributes attr)])] := by
  have hsplit := split_gpuKey hmem hvendor hmodel hattr
  have hgroup : gpuKey vendor model attr ≠ "interconnect/group" := by
    intro heq
    rw [heq, show Go.split "interconnect/group" '/' = ["interconnect", "group"] by rfl] at hsplit
    simp [stampTokens] at hsplit
  have hone : parseGPUAttribute S ([], []) ⟨gpuKey vendor model attr, "true"⟩ =
      .ok (if vendor = "nvidia" then ([(model, stampedAttributes attr)], [])
        else ([], [(model, stampedAttributes attr)])) := by
    unfold parseGPUAttribute
    simp only [hsplit, hgroup, if_false]
    obtain rfl | rfl := hvendor <;> cases attr with
    | none => simp [stampTokens, stampedAttributes, bind, Except.bind]
    | some a =>
      obtain ⟨ram, interface⟩ := a
      obtain ⟨hram, hinterface⟩ := hattr _ rfl
      have hread : ram ≠ "" → S.memoryQuantity ram = .ok ram := fun hne =>
        (hram.resolve_left hne).elim fun v hv => (hmem v _ hv).2
      by_cases hr : ram = "" <;> by_cases hi : interface = "" <;>
        simp [stampTokens, stampedAttributes, parseModelAttributes, hr, hi, hread,
          hinterface.resolve_left, Except.map, bind, Except.bind, Option.filter]
  rw [parseGPUAttributes, List.foldlM_cons, hone]
  obtain rfl | rfl := hvendor <;> rfl

theorem gpuKey_stamped (vendor model : String) (attr : Option GPUModelAttributes) :
    gpuKey vendor model (stampedAttributes attr) = gpuKey vendor model attr := by
  cases attr with
  | none => rfl
  | some a =>
    by_cases hr : a.ram = "" <;> by_cases hi : a.interface = "" <;>
      simp [stampedAttributes, gpuKey, hr, hi, Option.filter]

variable {info : InventoryV1.GPUInfo} {attr : Option GPUModelAttributes}

/-! ## The pricing script -/

structure GpuVendorAttributes where
  model : String
  ram : Option String
  interface : Option String
deriving DecidableEq, Repr

/-- `none` is a panic: a key at the end has no value. -/
def parseGPUPairs : List String → GpuVendorAttributes → Option GpuVendorAttributes
  | [], attrs => some attrs
  | [_], _ => none
  | key :: val :: rest, attrs =>
    if key = "ram" then parseGPUPairs rest { attrs with ram := some val }
    else if key = "interface" then parseGPUPairs rest { attrs with interface := some val }
    else parseGPUPairs rest attrs

/-- One round of `parseGPU`, on the map by vendor. -/
def parseGPUElement (vendors : List (String × GpuVendorAttributes)) (attr : Attribute) :
    Option (List (String × GpuVendorAttributes)) :=
  match Go.split attr.key '/' with
  | "vendor" :: vendor :: _ :: model :: rest =>
    (parseGPUPairs rest ⟨model, none, none⟩).map fun attrs => (vendor, attrs) :: vendors
  | "vendor" :: _ => none
  | _ => some vendors

/-- `parseGPU`: the units, and the attributes by vendor. -/
def parseGPU (resource : Rtypes.GPU) :
    Option (Rtypes.ResourceValue × List (String × GpuVendorAttributes)) :=
  (resource.attributes.foldlM parseGPUElement []).map (resource.units, ·)

/-- The memory and the interface that are asked for, each empty if it is not. -/
def constraints (attr : Option GPUModelAttributes) : String × String :=
  ((attr.map (·.ram)).getD "", (attr.map (·.interface)).getD "")

theorem constraints_stamped (attr : Option GPUModelAttributes) :
    constraints (stampedAttributes attr) = constraints attr := by
  cases attr with
  | none => rfl
  | some a =>
    by_cases hr : a.ram = "" <;> by_cases hi : a.interface = "" <;>
      simp [stampedAttributes, constraints, hr, hi, Option.filter]

theorem DeviceMeets.stamped (h : DeviceMeets S attr info) :
    DeviceMeets S (stampedAttributes attr) info :=
  fun a ha => h a (Option.mem_filter_iff.mp ha).1

/-- A device that meets the constraints is matched by its name. -/
theorem matchGPU_of_meets (h : DeviceMeets S attr info) :
    matchGPU S [(info.vendor, [(info.name, attr)])] info = some attr := by
  unfold matchGPU
  simp only [List.lookup_cons_self, GPUModels.existsOrWildcard]
  cases attr with
  | none => rfl
  | some a =>
    obtain ⟨hram, hinterface⟩ := h a rfl
    grind

theorem findGPU_of_same {attrs : GPUAttributes} (hmatch : matchGPU S attrs info = some attr) :
    ∀ {l : List InventoryV1.GPUInfo} {n : Nat}, (∀ i ∈ l, i = info) → n ≠ 0 → n ≤ l.length →
      findGPU S attrs n l = some (info, attr)
  | [], n, _, hn, hle => absurd (Nat.le_zero.mp hle) hn
  | i :: l, n, hl, hn, hle => by
    obtain ⟨hi, hl⟩ := List.forall_mem_cons.mp hl
    unfold findGPU
    simp only [hi, hmatch]
    split
    next => rfl
    next hone => exact findGPU_of_same hmatch hl (by omega) (by simp at hle; omega)

/-- The pricing script reads the stamp. -/
theorem parseGPU_stamp (hmem : MemoryRendering S) {vendor model : String}
    (hvendor : vendor = "nvidia" ∨ vendor = "amd") (hmodel : '/' ∉ model.toList)
    (hattr : ∀ a ∈ attr, a.Parsed S) (units : Rtypes.ResourceValue) :
    parseGPU ⟨units, [⟨gpuKey vendor model attr, "true"⟩]⟩ =
      some (units, [(vendor, ⟨model, Option.guard (· ≠ "") (constraints attr).1,
        Option.guard (· ≠ "") (constraints attr).2⟩)]) := by
  have hone : parseGPUElement [] ⟨gpuKey vendor model attr, "true"⟩ =
      some [(vendor, ⟨model, Option.guard (· ≠ "") (constraints attr).1,
        Option.guard (· ≠ "") (constraints attr).2⟩)] := by
    unfold parseGPUElement
    rw [split_gpuKey hmem hvendor hmodel hattr]
    cases attr with
    | none => rfl
    | some a =>
      by_cases hr : a.ram = "" <;> by_cases hi : a.interface = "" <;>
        simp [stampTokens, parseGPUPairs, constraints, Option.guard, hr, hi]
  simp [parseGPU, hone]

/-- A request that was satisfied with a device is stamped with it: the stamp is parsed to the
device with the constraints of the request, it is accepted again with the same stamp, and the
pricing script reads the same. -/
theorem gpu_stamp_reads_back (hS : S.Lawful) (hmem : MemoryRendering S)
    {rp rp' : InventoryV1.GPU} {req req' : Rtypes.GPU} {sp sp' : SchedulerParams}
    {teeType : TEEType} {teePlatform : TEEPlatform}
    (hdevices : ∀ info ∈ rp.info,
      (info.vendor = "nvidia" ∨ info.vendor = "amd") ∧ '/' ∉ info.name.toList)
    (hunits : req.units ≠ 0)
    (h : tryAdjustGPU S rp req sp teeType teePlatform = some (rp', req', sp')) :
    ∃ attrs, ∃ info ∈ rp.info, ∃ attr stamped,
      parseGPUAttributes S req.attributes = .ok attrs ∧
      findGPU S attrs req.units.toNat rp.info = some (info, attr) ∧
      parseGPUAttributes S req'.attributes = .ok [(info.vendor, [(info.name, stamped)])] ∧
      constraints stamped = constraints attr ∧ DeviceMeets S stamped info ∧
      (∀ (rp₂ : InventoryV1.GPU) (sp₂ : SchedulerParams) (q : InventoryV1.ResourcePair),
        (∀ i ∈ rp₂.info, i = info) → req.units.toNat ≤ rp₂.info.length →
        S.available rp₂.quantity ≠ 0 → S.subNLZ rp₂.quantity req.units = some q →
        ∃ sp₃, tryAdjustGPU S rp₂ req' sp₂ teeType teePlatform =
          some ({ rp₂ with quantity := q }, req', sp₃)) ∧
      parseGPU req' = some (req.units, [(info.vendor,
        ⟨info.name, Option.guard (· ≠ "") (constraints attr).1,
          Option.guard (· ≠ "") (constraints attr).2⟩)]) := by
  obtain ⟨attrs, info, attr, q, hparse, hfind, -, -, rfl, -⟩ := tryAdjustGPU_eq_some hunits h
  obtain ⟨hinfo, hmatch⟩ := findGPU_mem hfind
  obtain ⟨hvendor, hname⟩ := hdevices info hinfo
  have hlower : S.toLower info.vendor = info.vendor := by
    obtain hnvidia | hamd := hvendor
    · rw [hnvidia, hS.toLower_nvidia]
    · rw [hamd, hS.toLower_amd]
  have hparsed := matchGPU_parsed hparse hmatch
  have hmeets := (matchGPU_meets hmatch).stamped
  have hstamp := parse_stamp hmem hvendor hname hparsed
  rw [hlower]
  refine ⟨attrs, info, hinfo, attr, stampedAttributes attr, hparse, hfind, hstamp,
    constraints_stamped attr, hmeets, fun rp₂ sp₂ q hsame hle havailable hsub => ?_,
    parseGPU_stamp hmem hvendor hname hparsed req.units⟩
  have hpos : req.units.toNat ≠ 0 := fun hzero => hunits (UInt64.toNat_inj.mp hzero)
  unfold tryAdjustGPU
  simp only [hunits, havailable, if_false, hstamp,
    findGPU_of_same (matchGPU_of_meets hmeets) hsame hpos hle, hsub, hlower, gpuKey_stamped]
  exact ⟨_, rfl⟩

theorem reference_rendering : MemoryRendering .reference := by
  intro v q h
  obtain ⟨hslash, rfl⟩ := Except.ite_ok_eq_ok_iff.mp h
  exact ⟨hslash, h⟩

/-- A request for any model is stamped with the one device, and read as such. -/
theorem gpu_stamp_reads_back_a100 :
    parseGPU ⟨1, [⟨"vendor/nvidia/model/a100/ram/80Gi", "true"⟩]⟩ =
      some (1, [("nvidia", ⟨"a100", some "80Gi", none⟩)]) := by
  have hok : tryAdjustGPU .reference ⟨freePair 2000, [⟨"nvidia", "a100", "sxm", "80Gi"⟩]⟩
      ⟨1, [⟨"vendor/nvidia/model/*/ram/80Gi", "true"⟩]⟩ .zero .none .none =
        some (⟨⟨some 2000, some 2000, some 1000⟩, [⟨"nvidia", "a100", "sxm", "80Gi"⟩]⟩,
          ⟨1, [⟨"vendor/nvidia/model/a100/ram/80Gi", "true"⟩]⟩,
          stampGPU .zero "nvidia" "a100" .none .none) := by
    decide +kernel
  obtain ⟨attrs, info, hinfo, attr, stamped, -, -, hstamp, hsame, -, -, hprice⟩ :=
    gpu_stamp_reads_back Sdk.reference_lawful reference_rendering (by decide) (by decide) hok
  obtain rfl := List.mem_singleton.mp hinfo
  have hone : parseGPUAttributes .reference
      [⟨"vendor/nvidia/model/a100/ram/80Gi", "true"⟩] =
        .ok [("nvidia", [("a100", some ⟨"80Gi", ""⟩)])] := by rfl
  rw [hone] at hstamp
  cases hstamp
  rw [hprice, ← hsame]
  rfl

/-! ## All replicas -/

/-- A name that the key of a stamp can hold, and that is not the wildcard. -/
def PlainName (info : InventoryV1.GPUInfo) : Prop := '/' ∉ info.name.toList ∧ info.name ≠ "*"

theorem matchGPU_single {vendor model : String} {stamped : Option GPUModelAttributes}
    (hmodel : model ≠ "*") (h : matchGPU S [(vendor, [(model, stamped)])] info = some attr) :
    info.vendor = vendor ∧ info.name = model ∧ attr = stamped := by
  unfold matchGPU at h
  split at h
  next => cases h
  next models hlookup =>
    cases Assoc.mem_of_lookup hlookup with
    | tail _ hnil => cases hnil
    | head =>
      have hexists : ∀ found, GPUModels.existsOrWildcard [(model, stamped)] info.name = some found →
          info.name = model ∧ found = stamped := by
        intro found hfound
        unfold GPUModels.existsOrWildcard at hfound
        split at hfound
        next hname =>
          grind -ring -linarith
        next =>
          grind -ring -linarith
      grind -ring -linarith

variable {teeType : TEEType} {teePlatform : TEEPlatform}

/-- A stamped request gets its stamp again, wherever it is accepted, and records the same. -/
theorem tryAdjustGPU_again (hS : S.Lawful) (hmem : MemoryRendering S)
    {rp rp' rp₂ rp₂' : InventoryV1.GPU} {req req' req₂ : Rtypes.GPU}
    {sp sp' sp₂ sp₂' : SchedulerParams} (hnames : ∀ info ∈ rp.info, PlainName info)
    (h : tryAdjustGPU S rp req sp teeType teePlatform = some (rp', req', sp'))
    (h₂ : tryAdjustGPU S rp₂ req' sp₂ teeType teePlatform = some (rp₂', req₂, sp₂')) :
    req₂ = req' ∧ ∃ record : SchedulerParams → SchedulerParams,
      sp' = record sp ∧ sp₂' = record sp₂ := by
  by_cases hunits : req.units = 0
  · rw [tryAdjustGPU_zero hunits] at h
    cases h
    rw [tryAdjustGPU_zero hunits] at h₂
    cases h₂
    exact ⟨rfl, id, rfl, rfl⟩
  · obtain ⟨attrs, info, attr, q, hparse, hfind, -, -, rfl, rfl⟩ := tryAdjustGPU_eq_some hunits h
    obtain ⟨attrs₂, info₂, attr₂, q₂, hparse₂, hfind₂, -, -, rfl, rfl⟩ :=
      tryAdjustGPU_eq_some (by exact hunits) h₂
    obtain ⟨hmember, hmatch⟩ := findGPU_mem hfind
    obtain ⟨models, hlookup⟩ := matchGPU_lookup hmatch
    have hvendor := parseGPUAttributes_vendor hparse hlookup
    have hlower : S.toLower info.vendor = info.vendor := by
      grind -ring -linarith
    obtain ⟨hslash, hwild⟩ := hnames info hmember
    rw [hlower, parse_stamp hmem hvendor hslash (matchGPU_parsed hparse hmatch)] at hparse₂
    cases hparse₂
    obtain ⟨hv, hn, rfl⟩ := matchGPU_single hwild (findGPU_mem hfind₂).2
    rw [hv, hn, gpuKey_stamped]
    exact ⟨rfl, (stampGPU · _ _ _ _), rfl, rfl⟩

variable {c₁ c₂ : Cluster} {node : Nat} {res res₁ : Rtypes.Resources} {cfg : AttemptConfig}
  {commit : Commit} {claims : GroupClaims}

theorem DevicesPassed.again (hS : S.Lawful) (hmem : MemoryRendering S)
    {nd' nd₂' : Node} {sp' sp₂' : SchedulerParams} {gpu gpu₂ : Rtypes.GPU}
    (p : DevicesPassed S c₁ node res cfg nd' sp' gpu)
    (hnames : ∀ info ∈ p.nd.resources.gpu.info, PlainName info)
    (q : DevicesPassed S c₂ node { res with gpu := some gpu } cfg nd₂' sp₂' gpu₂)
    (hcaps : q.nd.capabilities = p.nd.capabilities) : gpu₂ = gpu ∧ sp₂' = sp' := by
  have hq : q.gpuReq = gpu := (Option.some.inj q.gpu_eq).symm
  have hok := q.gpu_ok
  rw [hq] at hok
  obtain ⟨hgpu, record, hsp, hsp₂⟩ := tryAdjustGPU_again hS hmem hnames p.gpu_ok hok
  refine ⟨hgpu, ?_⟩
  rw [hsp, hsp₂]
  refine congrArg record ?_
  have hunits : gpu.units = p.gpuReq.units := tryAdjustGPU_units p.gpu_ok
  obtain ⟨hno, -, hic⟩ | ⟨hyes, -, g, hg, -, hic⟩ := tryAdjustInterconnect_eq_some p.ic_ok <;>
    obtain ⟨hno₂, -, hic₂⟩ | ⟨hyes₂, -, g₂, hg₂, -, hic₂⟩ := tryAdjustInterconnect_eq_some q.ic_ok
  · rw [hic, hic₂]
  · rw [hno] at hyes₂
    cases hyes₂
  · rw [hyes] at hno₂
    cases hno₂
  · simp_all [p.gpu_eq]

theorem RestPassed.params {storage storage' : List InventoryV1.Storage} {nd nd' : Node}
    {sp sp' : SchedulerParams} (p : RestPassed S storage res cfg nd sp nd' storage' sp') :
    sp' = if cfg.teeType.isCC = true ∧ sp.runtimeClass = "" then
      { sp with runtimeClass := runtimeClassForTEEType cfg.teeType cfg.teePlatform } else sp := by
  obtain ⟨hcc, -, hsp⟩ | ⟨hcc, hsp, -⟩ := reserveSidecar_eq_ok p.sidecar_ok
  · simp [hcc, hsp]
  · simp [hcc, hsp]

/-- A replica after a first one on the same node. -/
theorem Passed.again (hS : S.Lawful) (hmem : MemoryRendering S)
    (p : Passed S c₁ node res cfg res₁ commit)
    (hnames : ∀ info ∈ p.devices.nd.resources.gpu.info, PlainName info)
    {c₂ : Cluster} (hcaps : ∀ nd₂, c₂.nodes[node]? = some nd₂ →
      nd₂.capabilities = p.devices.nd.capabilities) (claims : GroupClaims) :
    (tryAdjust S c₂ node res₁ cfg claims).1 = res₁ ∧
      ∀ commit₂, (tryAdjust S c₂ node res₁ cfg claims).2 = .ok commit₂ →
        commit₂.sparams = commit.sparams := by
  rw [p.request_eq]
  unfold tryAdjust
  split
  next => exact ⟨rfl, nofun⟩
  next nd₂ sp₂ gpu₂ hdevices =>
    obtain ⟨q⟩ := tryAdjustDevices_eq_ok hdevices
    obtain ⟨hgpu, hsp⟩ := p.devices.again hS hmem hnames q (hcaps _ q.node_eq)
    simp only [hgpu]
    split
    next => exact ⟨rfl, nofun⟩
    next nd₃ storage sp₃ hrest =>
      refine ⟨rfl, ?_⟩
      rintro _ ⟨⟩
      obtain ⟨r⟩ := tryAdjustRest_eq_ok hrest
      rw [p.sparams_eq, p.rest.params, r.params, hsp]

variable {env : AdjustEnv} {start : Cluster} {st st' : AdjustState}

/-- Every replica has the resources of the entry of its unit, and the parameters that are
recorded under the ID of the unit. -/
def Uniform (st : AdjustState) : Prop :=
  ∀ p ∈ st.placed, ∃ u, st.adjustedResources[p.unit]? = some u ∧ u.resources = p.resources ∧
    (st.cparams.lookup u.resources.id).join = p.sparams

/-- A replica of a unit on the node of the others leaves their resources, and has their
parameters. -/
theorem Progress.again (hS : S.Lawful) (hmem : MemoryRendering S) (h : Progress S env start st)
    (hnames : ∀ nd ∈ start.nodes, ∀ info ∈ nd.resources.gpu.info, PlainName info) {p : Placed}
    (hp : p ∈ st.placed) (claims : GroupClaims) :
    let attempt := tryAdjust S st.cluster p.node p.resources (env.attempt p.unit) claims
    attempt.1 = p.resources ∧
      ∀ commit, attempt.2 = .ok commit → commit.sparams = p.sparams := by
  obtain ⟨a⟩ := placed_attempt h.run hp
  obtain ⟨passed⟩ := tryAdjust_eq_ok a.ok
  obtain ⟨nd, f, hnd, hcharged⟩ := a.node_charged hS passed.devices.node_eq
  have hcaps : ∀ nd₂, st.cluster.nodes[p.node]? = some nd₂ →
      nd₂.capabilities = passed.devices.nd.capabilities := by
    intro nd₂ hnd₂
    obtain ⟨nd', f', hnd', hcharged'⟩ := node_charged_of_run hS h.run hnd₂
    rw [hnd, Option.some.injEq] at hnd'
    rw [hcharged, hcharged', hnd']
    rfl
  have hplain : ∀ info ∈ passed.devices.nd.resources.gpu.info, PlainName info := by
    rw [hcharged]
    exact hnames nd (List.mem_of_getElem? hnd)
  rw [a.sparams]
  exact passed.again hS hmem hplain hcaps claims

/-- Units have different IDs, whatever their entries were adjusted to. -/
theorem Progress.unit_of_id (h : Progress S env start st)
    (hids : (env.origResources.map (·.resources.id)).Nodup) {i j : Nat} {u v : ResourceUnit}
    (hu : st.adjustedResources[i]? = some u) (hv : st.adjustedResources[j]? = some v)
    (hid : u.resources.id = v.resources.id) : i = j := by
  obtain ⟨ou, hou, hsame⟩ := h.unit_same hu
  obtain ⟨ov, hov, hsame'⟩ := h.unit_same hv
  have hlt := (List.getElem?_eq_some_iff.mp hou).1
  refine (List.getElem?_inj (by simpa using hlt) hids).mp ?_
  simp [hou, hov, ← hsame.id_eq, ← hsame'.id_eq, hid]

theorem Uniform.step (hS : S.Lawful) (hmem : MemoryRendering S)
    (hprogress : Progress S env start st)
    (hids : (env.origResources.map (·.resources.id)).Nodup)
    (hnames : ∀ nd ∈ start.nodes, ∀ info ∈ nd.resources.gpu.info, PlainName info)
    (h : Uniform st) (hstep : LoopStep S env st st') : Uniform st' := by
  cases hstep with
  | @refuse i node u last unit fresh =>
    intro p hp
    obtain ⟨v, hv, hres, hparams⟩ := h p hp
    by_cases hunit : p.unit = i
    · subst hunit
      rw [unit, Option.some.injEq] at hv
      subst hv
      have hsame := (hprogress.again hS hmem hnames hp st.groupClaims).1
      rw [hprogress.on_node fresh p hp rfl, ← hres] at hsame
      refine ⟨_, getElem?_setResources unit _, ?_⟩
      rw [hsame]
      exact ⟨hres, hparams⟩
    · grind [setResources]
  | @place i node left u res' commit last unit fresh count ok =>
    have hself : ∀ q : Placed, q.unit = i → q.resources = res' → q.sparams = commit.sparams →
        ∃ v, (setResources st.adjustedResources i res')[q.unit]? = some v ∧
          v.resources = q.resources ∧
          (((res'.id, commit.sparams) :: st.cparams).lookup v.resources.id).join = q.sparams := by
      rintro q rfl hres hparams
      exact ⟨_, getElem?_setResources unit _, hres.symm, by simp [hparams]⟩
    intro p hp
    obtain hp | hp := List.mem_append.mp hp
    · obtain ⟨v, hv, hres, hparams⟩ := h p hp
      by_cases hunit : p.unit = i
      · have hagain := hprogress.again hS hmem hnames hp st.groupClaims
        have hu : u = v := by
          simp_all
        rw [hprogress.on_node fresh p hp hunit, hunit, ← hres, ← hu, ok] at hagain
        grind -ring -linarith
      · refine ⟨v, by simpa [setResources, Ne.symm hunit] using hv, hres, ?_⟩
        have hid : v.resources.id ≠ res'.id := by
          have hsame := tryAdjust_sameRequest (S := S) st.cluster node u.resources (env.attempt i)
            st.groupClaims
          rw [ok] at hsame
          rw [hsame.id_eq]
          exact fun heq => hunit (hprogress.unit_of_id hids hv unit heq)
        rw [List.lookup_cons, beq_eq_false_iff_ne.mpr hid]
        exact hparams
    · grind
  | @follow i node left u commit last unit count ok recorded =>
    intro p hp
    obtain hp | hp := List.mem_append.mp hp
    · exact h p hp
    · simp_all
  | done last zero => exact h

section

variable {inv inv' : Inventory} {rg : ResourceGroup} {opts : InventoryOptions} {g : Grant}

theorem uniform_of_run (hS : S.Lawful) (hmem : MemoryRendering S)
    (hids : (rg.resourceUnits.map (·.resources.id)).Nodup)
    (hnames : ∀ nd ∈ inv.sanitized.nodes, ∀ info ∈ nd.resources.gpu.info, PlainName info)
    (hrun : Relation.ReflTransGen (LoopStep S (adjustEnv rg opts))
      (adjustStart inv.sanitized rg) st) : Uniform st := by
  have hstart := progress_start (S := S) inv.sanitized rg opts
  induction hrun with
  | refl => exact nofun
  | tail hrun hstep ih => exact ih.step hS hmem (hstart.steps hrun) hids hnames hstep

/-- The scheduler parameters that are recorded under the ID of a unit. -/
def Grant.paramsOf (g : Grant) (u : ResourceUnit) : Option SchedulerParams :=
  (g.clusterParams.lookup u.resources.id).join

/-- Every replica of a unit gets the resources that are offered for the unit, and the scheduler
parameters that are recorded under its ID. -/
theorem replicas_get_offer (hS : S.Lawful) (hmem : MemoryRendering S)
    (hids : (rg.resourceUnits.map (·.resources.id)).Nodup)
    (hnames : ∀ nd ∈ inv.sanitized.nodes, ∀ info ∈ nd.resources.gpu.info, PlainName info)
    (h : adjust S inv rg opts = (inv', .ok g)) :
    ∀ p ∈ g.placed, ∃ u, g.allocatedResources[p.unit]? = some u ∧ p.resources = u.resources ∧
      p.sparams = g.paramsOf u := by
  obtain ⟨st, hrun, -, -, rfl⟩ := adjust_reaches h
  intro p hp
  obtain ⟨u, hu, hres, hparams⟩ := uniform_of_run hS hmem hids hnames hrun p hp
  exact ⟨u, hu, hres.symm, hparams.symm⟩

end

/-- One node with two GPUs of the given devices. -/
def gpuInventory (info : List InventoryV1.GPUInfo) : Inventory :=
  newInventory ⟨[freeNode "node" 1000 64 2 info], []⟩

/-- Two replicas, each with a GPU of any model. -/
def anyModelGroup : ResourceGroup :=
  plainGroup (plainRequest 100 16 ⟨1, [⟨"vendor/nvidia/model/*", "true"⟩]⟩) 2

theorem replicas_get_offer_a100 : ∃ g,
    (adjust .reference (gpuInventory [⟨"nvidia", "a100", "sxm", "80Gi"⟩]) anyModelGroup
      plainOptions).2.toOption = some g ∧ g.placed.length = 2 ∧ ∀ p ∈ g.placed,
        ∃ u, g.allocatedResources[p.unit]? = some u ∧ p.resources = u.resources ∧
          p.sparams = g.paramsOf u := by
  have hok : ((adjust .reference (gpuInventory [⟨"nvidia", "a100", "sxm", "80Gi"⟩])
      anyModelGroup plainOptions).2.toOption.map (·.placed.length)) = some 2 := by decide +kernel
  obtain ⟨g, hg, hlength⟩ := Option.map_eq_some_iff.mp hok
  have hplain : ∀ nd ∈ (gpuInventory [⟨"nvidia", "a100", "sxm", "80Gi"⟩]).sanitized.nodes,
      ∀ info ∈ nd.resources.gpu.info, PlainName info := by
    unfold PlainName
    decide
  exact ⟨g, hg, hlength, replicas_get_offer Sdk.reference_lawful reference_rendering (by decide)
    hplain (Prod.ext rfl (Except.eq_ok_of_toOption_eq_some hg))⟩

/-- The name of the first device reads like the second one with its memory.  The second replica is
recorded with the second device, and the record of the first is lost. -/
theorem slash_name_confused : ∃ g,
    (adjust .reference (gpuInventory [⟨"nvidia", "a100/ram/40Gi", "sxm", "80Gi"⟩,
        ⟨"nvidia", "a100", "sxm", "40Gi"⟩]) anyModelGroup plainOptions).2.toOption = some g ∧
      ∃ p ∈ g.placed, ∃ u ∈ g.allocatedResources[p.unit]?,
        p.sparams ≠ g.paramsOf u := by
  refine ⟨_, rfl, ?_⟩
  decide +kernel

end AkashProvider
