import AkashProvider.Lib.Decimal
import AkashProvider.Lib.Except
import AkashProvider.Types.Resources

/-!
# The price of a bid

*Scale pricing* has a price for a unit of each resource; *random range pricing* is in another
module.  A decimal is a rational number here, quotients are rounded, and the total is read as a
decimal of the chain, with 18 digits after the point.  `all_scales_zero_iff` says which scales are
rejected because nothing has a price.
-/

namespace AkashProvider

/-- The functions of other packages that the pricing uses. -/
structure PricingSdk where
  div : ℚ → ℚ → ℚ
  /-- `attrs.Find(sdl.StorageAttributePersistent).AsBool()`. -/
  findPersistent : Attributes → Bool
  /-- `attrs.Find(sdl.StorageAttributeClass).AsString()`; `none` if it is not set. -/
  findClass : Attributes → Option String
  /-- The largest decimal that the chain reads, in its smallest fraction. -/
  maxDec : Int

/-- `LegacyMaxSortableDec`, and the digits of a decimal of the chain. -/
def legacyMaxSortableDec : ℚ := 10 ^ 18

def legacyPrecision : Nat := 18

def unitMi : ℚ := 2 ^ 20

/-- A quotient is rounded to 16 digits, and the largest sortable decimal can be read. -/
structure PricingSdk.Lawful (S : PricingSdk) : Prop where
  div_eq : ∀ a b, 0 ≤ a → 0 < b → S.div a b = Decimal.roundTo 16 (a / b)
  maxSortable_le : 10 ^ (18 + legacyPrecision) ≤ S.maxDec

def PricingSdk.reference : PricingSdk where
  div a b := Decimal.roundTo 16 (a / b)
  findPersistent attrs := ⟨"persistent", "true"⟩ ∈ attrs
  findClass attrs := (attrs.find? (·.key = "class")).map (·.value)
  maxDec := 2 ^ 315 - 1

theorem PricingSdk.Lawful.reference : Lawful .reference where
  div_eq _ _ _ _ := rfl
  maxSortable_le := by decide +kernel

theorem PricingSdk.reference_div_mono (b : ℚ) (hb : 0 < b) :
    Monotone fun a => PricingSdk.reference.div a b :=
  fun _ _ hle => Decimal.roundTo_mono 16 (div_le_div_of_nonneg_right hle hb.le)

inductive PricingErr where
  /-- "at least one bid price must be a non-zero number" -/
  | allScalesZero
  /-- "no pricing configured for storage class", and the class -/
  | noPriceScaleForStorageClass (storageClass : String)
  /-- "scale price cannot be negative" -/
  | scaleNegative
  /-- "a bid quantity is invalid" -/
  | bidQuantityInvalid
  /-- "a bid of zero was produced" -/
  | bidZero
  /-- The total has too many digits to be read, or is too large. -/
  | decimal
  /-- A panic: the group has no CPU or no memory. -/
  | nilPointer
deriving DecidableEq

namespace Pricing

/-! ## Scales -/

/-- A decimal for each class of storage. -/
structure Storage where
  entries : List (String × ℚ)
  nodup : (entries.map Prod.fst).Nodup
deriving DecidableEq

namespace Storage

def isAnyZero (ss : Storage) : Bool :=
  if ss.entries.length = 0 then true else ss.entries.any (·.2 = 0)

def isAnyNegative (ss : Storage) : Bool := ss.entries.any (·.2 < 0)

/-- The decimal of a class; a class that is missing reads as zero. -/
def get (ss : Storage) (storageClass : String) : ℚ := (ss.entries.lookup storageClass).getD 0

def mapValues (f : String → ℚ → ℚ) (ss : Storage) : Storage where
  entries := ss.entries.map fun e => (e.1, f e.1 e.2)
  nodup := by
    rw [List.map_map]
    exact ss.nodup

end Storage

end Pricing

structure ScalePricing where
  cpuScale : ℚ
  memoryScale : ℚ
  storageScale : Pricing.Storage
  endpointScale : ℚ
  ipScale : ℚ
deriving DecidableEq

def makeScalePricing (cpuScale memoryScale : ℚ) (storageScale : Pricing.Storage)
    (endpointScale ipScale : ℚ) : Except PricingErr ScalePricing :=
  if cpuScale = 0 ∧ memoryScale = 0 ∧ storageScale.isAnyZero ∧ endpointScale = 0 ∧ ipScale = 0 then
    .error .allScalesZero
  else if cpuScale < 0 ∨ memoryScale < 0 ∨ storageScale.isAnyNegative ∨ endpointScale < 0 ∨
      ipScale < 0 then
    .error .scaleNegative
  else .ok ⟨cpuScale, memoryScale, storageScale, endpointScale, ipScale⟩

/-! ## The scale price of a group -/

namespace ScalePricing

variable (S : PricingSdk)

structure Totals where
  cpu : ℚ
  memory : ℚ
  storage : Pricing.Storage
  endpoint : ℚ

def storageEphemeral : String := "ephemeral"

def storageClass (attributes : Attributes) : String :=
  if S.findPersistent attributes then (S.findClass attributes).getD storageEphemeral
  else storageEphemeral

def addVolume (count : Nat) (storageTotal : Pricing.Storage) (volume : Rtypes.Storage) :
    Except PricingErr Pricing.Storage :=
  let volumeClass := storageClass S volume.attributes
  if volumeClass ∈ storageTotal.entries.map Prod.fst then
    .ok (storageTotal.mapValues fun c total =>
      if c = volumeClass then total + volume.quantity.toNat * count else total)
  else .error (.noPriceScaleForStorageClass volumeClass)

def addGroup (totals : Totals) (group : ResourceUnit) : Except PricingErr Totals :=
  match group.resources.cpu, group.resources.memory with
  | some cpu, some memory => do
    let storage ← group.resources.storage.foldlM (addVolume S group.count) totals.storage
    return {
      cpu := totals.cpu + cpu.units.toNat * group.count
      memory := totals.memory + memory.quantity.toNat * group.count
      storage := storage
      endpoint := totals.endpoint + group.resources.endpoints.length }
  | _, _ => .error .nilPointer

/-- `LegacyNewDecFromStr`, for the text of a decimal. -/
def legacyNewDecFromStr (cost : ℚ) : Except PricingErr Int :=
  if Decimal.Fits legacyPrecision cost ∧ Decimal.scaled legacyPrecision cost ≤ S.maxDec then
    .ok (Decimal.scaled legacyPrecision cost)
  else .error .decimal

def costs (fp : ScalePricing) (totals : Totals) : Totals where
  cpu := totals.cpu * fp.cpuScale
  memory := S.div totals.memory unitMi * fp.memoryScale
  storage := totals.storage.mapValues fun c total => S.div total unitMi * fp.storageScale.get c
  endpoint := totals.endpoint * fp.endpointScale

def priceOfCosts (denom : String) (cost : Totals) (ipTotal : ℚ) : Except PricingErr DecCoin :=
  if cost.cpu < 0 ∨ cost.memory < 0 ∨ cost.storage.isAnyNegative ∨ cost.endpoint < 0 ∨
      ipTotal < 0 then
    .error .bidQuantityInvalid
  else
    let totalCost := cost.cpu + cost.memory + (cost.storage.entries.map Prod.snd).sum +
      cost.endpoint + ipTotal
    if totalCost < 0 then .error .bidQuantityInvalid
    else if totalCost = 0 then .error .bidZero
    else do
      let costDec ← legacyNewDecFromStr S totalCost
      if ¬ (costDec : ℚ) ≤ legacyMaxSortableDec * 10 ^ legacyPrecision then
        .error .bidQuantityInvalid
      else .ok ⟨denom, costDec⟩

/-- `price` is `req.GSpec.Price()`. -/
def calculatePrice (fp : ScalePricing) (price : DecCoin) (gspec : GroupSpec) :
    Except PricingErr DecCoin := do
  let ipTotal := fp.ipScale * getEndpointQuantityOfResourceGroup gspec.resources .leasedIP
  let totals ← gspec.resources.foldlM (addGroup S)
    ⟨0, 0, fp.storageScale.mapValues fun _ _ => 0, 0⟩
  priceOfCosts S price.denom (fp.costs S totals) ipTotal

end ScalePricing

/-! ## Scales that are rejected -/

namespace ScalePricing

variable {cpuScale memoryScale endpointScale ipScale : ℚ} {storageScale : Pricing.Storage}

theorem isAnyZero_iff (ss : Pricing.Storage) :
    ss.isAnyZero = true ↔ ss.entries = [] ∨ ∃ e ∈ ss.entries, e.2 = 0 := by
  simp_all [Pricing.Storage.isAnyZero, List.any_eq_true]

theorem make_eq_allScalesZero_iff :
    makeScalePricing cpuScale memoryScale storageScale endpointScale ipScale =
        .error .allScalesZero ↔
      (cpuScale = 0 ∧ memoryScale = 0 ∧ endpointScale = 0 ∧ ipScale = 0) ∧
        (storageScale.entries = [] ∨ ∃ e ∈ storageScale.entries, e.2 = 0) := by
  rw [← isAnyZero_iff, makeScalePricing]
  grind

/-- The scales are rejected as all zero if the four are zero and there is no class, or one with a
price of zero.  This is all scales being zero, unless only some classes have a price.  What is not
rejected so, with no negative class, is accepted. -/
theorem all_scales_zero_iff (storageScale : Pricing.Storage) (hcpu : 0 ≤ cpuScale)
    (hmemory : 0 ≤ memoryScale) (hendpoint : 0 ≤ endpointScale) (hip : 0 ≤ ipScale) :
    let made := makeScalePricing cpuScale memoryScale storageScale endpointScale ipScale
    let zero := cpuScale = 0 ∧ memoryScale = 0 ∧ endpointScale = 0 ∧ ipScale = 0
    ((made = .error .allScalesZero ↔ zero ∧ ∀ e ∈ storageScale.entries, e.2 = 0) ↔
      ¬ (zero ∧ (∃ e ∈ storageScale.entries, e.2 = 0) ∧ ∃ e ∈ storageScale.entries, e.2 ≠ 0)) ∧
    (made = .error .allScalesZero ↔
      zero ∧ (storageScale.entries = [] ∨ ∃ e ∈ storageScale.entries, e.2 = 0)) ∧
    ((∀ e ∈ storageScale.entries, 0 ≤ e.2) → made ≠ .error .allScalesZero →
      made = .ok ⟨cpuScale, memoryScale, storageScale, endpointScale, ipScale⟩) := by
  intro made zero
  have hiff : made = .error .allScalesZero ↔
      zero ∧ (storageScale.entries = [] ∨ ∃ e ∈ storageScale.entries, e.2 = 0) :=
    make_eq_allScalesZero_iff
  refine ⟨?_, hiff, fun hstorage haccepted => ?_⟩
  · rw [hiff]
    by_cases hzero : zero
    · simp only [hzero, true_and]
      rcases List.eq_nil_or_concat storageScale.entries with hnil | ⟨before, last, hlast⟩
      all_goals grind
    · simp only [hzero, false_and, not_false_eq_true]
  · have hnegative : storageScale.isAnyNegative = false := by
      rw [Pricing.Storage.isAnyNegative, List.any_eq_false]
      exact fun e he => by simpa using hstorage e he
    grind [makeScalePricing]

def twoClasses (default beta : ℚ) : Pricing.Storage where
  entries := [("default", default), ("beta", beta)]
  nodup := by
    show ["default", "beta"].Nodup
    decide

/-- Only storage has a price, and each class has one. -/
theorem all_scales_zero_storage_only :
    makeScalePricing 0 0 (twoClasses 1 5) 0 0 = .ok ⟨0, 0, twoClasses 1 5, 0, 0⟩ := by
  obtain ⟨-, hzero, haccepted⟩ := all_scales_zero_iff (twoClasses 1 5) (le_refl (0 : ℚ))
    (le_refl (0 : ℚ)) (le_refl (0 : ℚ)) (le_refl (0 : ℚ))
  exact haccepted (by decide) (by rw [Ne, hzero]; decide)

/-- One class has a price, the other is free, and the scales are rejected as all zero. -/
theorem priced_class_rejected :
    makeScalePricing 0 0 (twoClasses 0 5) 0 0 = .error .allScalesZero ∧
      ("beta", 5) ∈ (twoClasses 0 5).entries := by
  decide

end ScalePricing

end AkashProvider
