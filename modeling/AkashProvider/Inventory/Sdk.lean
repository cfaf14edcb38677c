import AkashProvider.Types.Cluster

/-!
# What the inventory takes from other packages

Quantity arithmetic, attribute lookup, memory sizes, label validation and case mapping come from
other packages.  `Sdk.Lawful` names what the inventory relies on, and `Sdk.reference` is an
instance to run the model with.
-/

namespace AkashProvider

open InventoryV1 (Quantity ResourcePair Node)
open Rtypes (ResourceValue)

/-- The functions of other packages that the inventory calls. -/
structure Sdk where
  /-- `ResourcePair.SubNLZ`.  `none` is the result `false`. -/
  subNLZ : ResourcePair → ResourceValue → Option ResourcePair
  /-- `ResourcePair.SubMilliNLZ`, for an amount in milli-units. -/
  subMilliNLZ : ResourcePair → ResourceValue → Option ResourcePair
  /-- `ResourcePair.Available().Value()`. -/
  available : ResourcePair → Int
  /-- `Node.IsStorageClassSupported`. -/
  isStorageClassSupported : Node → String → Bool
  /-- `attrs.Find(sdl.StorageAttributePersistent).AsBool()`. -/
  findPersistent : Attributes → Bool
  /-- `attrs.Find(sdl.StorageAttributeClass).AsString()`. -/
  findClass : Attributes → String
  /-- `units.MemoryQuantityFromString`, printed with the suffix `Gi`. -/
  memoryQuantity : String → Except String String
  /-- `validation.IsValidLabelValue`: the reasons a label value is refused. -/
  isValidLabelValue : String → List String
  toLower : String → String

/-- `rp` can take `q` more: both its bounds are known and the sum stays within. -/
def InventoryV1.ResourcePair.Fits (rp : ResourcePair) (q : Quantity) : Prop :=
  ∃ a l, rp.allocated = some a ∧ rp.allocatable = some l ∧ a + q ≤ l

def InventoryV1.ResourcePair.charge (rp : ResourcePair) (q : Quantity) : ResourcePair :=
  { rp with allocated := rp.allocated.map (· + q) }

/-- The thousandths of `v` whole units. -/
def wholeUnits (v : ResourceValue) : Quantity := 1000 * (v.toNat : Int)

/-- The thousandths of `v` milli-units. -/
def milliUnits (v : ResourceValue) : Quantity := (v.toNat : Int)

/-- `SubNLZ` and `SubMilliNLZ` add the amount to `Allocated` exactly when it stays within
`Allocatable`, and storage classes are read off the capabilities of a node. -/
@[grind cases]
structure Sdk.Lawful (S : Sdk) : Prop where
  subNLZ_eq_some : ∀ rp v rp',
    S.subNLZ rp v = some rp' ↔ rp.Fits (wholeUnits v) ∧ rp' = rp.charge (wholeUnits v)
  subMilliNLZ_eq_some : ∀ rp v rp',
    S.subMilliNLZ rp v = some rp' ↔ rp.Fits (milliUnits v) ∧ rp' = rp.charge (milliUnits v)
  isStorageClassSupported_congr : ∀ nd nd' c, nd.capabilities = nd'.capabilities →
    S.isStorageClassSupported nd c = S.isStorageClassSupported nd' c
  toLower_nvidia : S.toLower "nvidia" = "nvidia"
  toLower_amd : S.toLower "amd" = "amd"

/-! ## Laws of `charge` -/

namespace InventoryV1.ResourcePair

@[simp] theorem charge_zero (rp : ResourcePair) : rp.charge 0 = rp := by
  cases rp with
  | mk c l a => cases a <;> simp [charge]

@[simp] theorem charge_charge (rp : ResourcePair) (p q : Quantity) :
    (rp.charge p).charge q = rp.charge (p + q) := by
  cases rp with
  | mk c l a => cases a <;> simp [charge, Int.add_assoc]

end InventoryV1.ResourcePair

/-! ## A reference instance -/

/-- A pair with `q` added, if it fits. -/
def InventoryV1.ResourcePair.sub? (rp : ResourcePair) (q : Quantity) : Option ResourcePair :=
  match rp.allocated, rp.allocatable with
  | some a, some l => if a + q ≤ l then some (rp.charge q) else none
  | _, _ => none

theorem InventoryV1.ResourcePair.sub?_eq_some (rp : ResourcePair) (q : Quantity)
    (rp' : ResourcePair) : rp.sub? q = some rp' ↔ rp.Fits q ∧ rp' = rp.charge q := by
  obtain ⟨c, l, a⟩ := rp
  cases a with
  | none => simp [sub?, Fits]
  | some a =>
    cases l with
    | none => simp [sub?, Fits]
    | some l =>
      by_cases h : a + q ≤ l
      · simp [sub?, Fits, h, eq_comm]
      · simp [sub?, Fits, h]

/-- The value of the first attribute with a key. -/
def findValue (key : String) (attrs : Attributes) : Option String :=
  (attrs.find? (·.key = key)).map (·.value)

/-- An instance of the packages: sizes without a slash are taken as printed, every label is valid,
and lower-casing is that of ASCII. -/
def Sdk.reference : Sdk where
  subNLZ rp v := rp.sub? (wholeUnits v)
  subMilliNLZ rp v := rp.sub? (milliUnits v)
  available rp := ((rp.allocatable.getD 0 - rp.allocated.getD 0) + 999) / 1000
  isStorageClassSupported nd c := c ∈ nd.capabilities.storageClasses
  findPersistent attrs := findValue "persistent" attrs = some "true"
  findClass attrs := (findValue "class" attrs).getD ""
  memoryQuantity s := if '/' ∈ s.toList then .error "invalid size" else .ok s
  isValidLabelValue _ := []
  toLower s := String.ofList (s.toList.map Char.toLower)

theorem Sdk.reference_lawful : Sdk.reference.Lawful where
  subNLZ_eq_some rp v rp' := rp.sub?_eq_some (wholeUnits v) rp'
  subMilliNLZ_eq_some rp v rp' := rp.sub?_eq_some (milliUnits v) rp'
  isStorageClassSupported_congr nd nd' c h := by simp only [Sdk.reference, h]
  toLower_nvidia := by decide
  toLower_amd := by decide

end AkashProvider
