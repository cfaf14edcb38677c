import AkashProvider.Lib.Strconv
import AkashProvider.Inventory.Sdk

/-!
# Resource attributes

A request narrows its placement by attributes.  The parsers keep the error texts of the source.
Maps are association lists with the last assignment in front.
-/

namespace AkashProvider

/-! ## GPU -/

structure GPUModelAttributes where
  ram : String
  interface : String

/-- Models by name.  A model without further attributes maps to nil. -/
abbrev GPUModels := List (String × Option GPUModelAttributes)

abbrev GPUAttributes := List (String × GPUModels)

/-- `ExistsOrWildcard`; the outer `none` is the result `false`. -/
def GPUModels.existsOrWildcard (m : GPUModels) (model : String) :
    Option (Option GPUModelAttributes) :=
  match m.lookup model with
  | some attr => some attr
  | none => m.lookup "*"

/-- The key/value pairs after the model: `ram` and `interface` are read, others skipped. -/
def parseModelAttributes (S : Sdk) :
    List String → GPUModelAttributes → Except String GPUModelAttributes
  | key :: val :: rest, m =>
    if key = "ram" then
      match S.memoryQuantity val with
      | .error e => .error e
      | .ok q => parseModelAttributes S rest { m with ram := q }
    else if key = "interface" then
      if val = "pcie" ∨ val = "sxm" then
        parseModelAttributes S rest { m with interface := val }
      else .error s!"unsupported GPU interface ({val})"
    else parseModelAttributes S rest m
  | _, m => .ok m

/-- One round of `ParseGPUAttributes`, over the models found for the two vendors. -/
def parseGPUAttribute (S : Sdk) (found : GPUModels × GPUModels) (attr : Attribute) :
    Except String (GPUModels × GPUModels) :=
  if attr.key = "interconnect/group" then .ok found
  else
    let tokens := Go.split attr.key '/'
    if tokens.length < 4 ∨ tokens.length % 2 ≠ 0 then .error "invalid GPU attribute"
    else
      match tokens with
      | t0 :: vendor :: t2 :: model :: rest =>
        if t0 ≠ "vendor" then .error s!"unexpected GPU attribute type ({t0})"
        else if t2 ≠ "model" then .error s!"unexpected GPU attribute type ({t2})"
        else do
          let mattrs ← if rest = [] then .ok none
            else (parseModelAttributes S rest ⟨"", ""⟩).map some
          if vendor = "nvidia" then .ok ((model, mattrs) :: found.1, found.2)
          else if vendor = "amd" then .ok (found.1, (model, mattrs) :: found.2)
          else .error s!"unsupported GPU vendor ({vendor})"
      | _ => .error "invalid GPU attribute"

/-- `ParseGPUAttributes`.  A vendor without models has no entry. -/
def parseGPUAttributes (S : Sdk) (attrs : Attributes) : Except String GPUAttributes := do
  let (nvidia, amd) ← attrs.foldlM (parseGPUAttribute S) ([], [])
  .ok ((if nvidia = [] then [] else [("nvidia", nvidia)]) ++
    (if amd = [] then [] else [("amd", amd)]))

theorem parseGPUAttributes_vendor {S : Sdk} {attrs : Attributes} {g : GPUAttributes}
    {vendor : String} {m : GPUModels} (h : parseGPUAttributes S attrs = .ok g)
    (hl : g.lookup vendor = some m) : vendor = "nvidia" ∨ vendor = "amd" := by
  unfold parseGPUAttributes at h
  cases hf : attrs.foldlM (parseGPUAttribute S) ([], []) with
  | error e => rw [hf] at h; cases h
  | ok p =>
    rw [hf] at h
    replace h : Except.ok _ = Except.ok g := h
    grind

/-! ## CPU -/

structure CPUAttributes where
  arch : String

/-- `ParseCPUAttributes`, from the attributes read so far. -/
def parseCPUAttributes : Attributes → CPUAttributes → Except String CPUAttributes
  | [], res => .ok res
  | attr :: rest, res =>
    if attr.key = "arch" then
      if attr.value = "amd64" ∨ attr.value = "arm64" then
        parseCPUAttributes rest { res with arch := attr.value }
      else .error s!"unsupported CPU architecture ({attr.value})"
    else .error s!"unsupported CPU attribute ({attr.key})"

/-- `CPUArchMatches`: a request that names no architecture, and a node that reports none,
always match. -/
def cpuArchMatches (info : List InventoryV1.CPUInfo) (attrs : Attributes) :
    Except String Bool :=
  if attrs = [] then .ok true
  else
    match parseCPUAttributes attrs ⟨""⟩ with
    | .error e => .error e
    | .ok parsed =>
      match info with
      | [] => .ok true
      | i :: _ =>
        if parsed.arch = "" ∨ i.arch = "" then .ok true
        else .ok (i.arch = parsed.arch)

/-! ## Storage -/

structure StorageAttributes where
  persistent : Bool
  storageClass : String

def parseStorageAttributes (S : Sdk) (attrs : Attributes) : Except String StorageAttributes :=
  let persistent := S.findPersistent attrs
  let storageClass := S.findClass attrs
  if persistent ∧ (storageClass = "" ∨ storageClass = "ram") then
    .error "persistent volume must specify storage class"
  else .ok ⟨persistent, storageClass⟩

/-! ## Interconnect -/

def attributeInterconnectFabricInfiniBand : String :=
  "capabilities/gpu-interconnect/fabric/infiniband"

def attributeInterconnectFabricRoCE : String := "capabilities/gpu-interconnect/fabric/roce"

def attributeGPUInterconnectGroupKey : String := "interconnect/group"

/-- `ResourceInterconnectGroup`: the value of the opt-in attribute, if there is one. -/
def resourceInterconnectGroup (res : Rtypes.Resources) : Option String :=
  match res.gpu with
  | none => none
  | some gpu => (gpu.attributes.find? (·.key = attributeGPUInterconnectGroupKey)).map (·.value)

/-- `interconnectCapsSuitable`; the empty fabric is no pin. -/
def interconnectCapsSuitable (caps : InventoryV1.NodeCapabilities) (requiredFabric : String) :
    Bool :=
  if caps.interconnectFabric = "" ∨ caps.interconnectResourceName = "" then false
  else requiredFabric = "" ∨ caps.interconnectFabric = requiredFabric

/-- `placementFabricFromAttrs`: the first fabric key set to `true`, else the empty pin. -/
def placementFabricFromAttrs : Attributes → String
  | [] => ""
  | a :: rest =>
    if a.value ≠ "true" then placementFabricFromAttrs rest
    else if a.key = attributeInterconnectFabricInfiniBand then "infiniband"
    else if a.key = attributeInterconnectFabricRoCE then "roce"
    else placementFabricFromAttrs rest

def placementAttrs : ResourceGroup → Attributes
  | .spec g => g.requirements
  | .other _ _ => []

def placementRequiredFabric (rg : ResourceGroup) : String :=
  placementFabricFromAttrs (placementAttrs rg)

/-- `FilterGPUInterface`: lower case, and `sxm*` read as `sxm`. -/
def filterGPUInterface (S : Sdk) (val : String) : String :=
  let val := S.toLower val
  if "sxm".toList.isPrefixOf val.toList then "sxm" else val

end AkashProvider
