import AkashProvider.Bidengine.Pricing
import AkashProvider.Lib.Assoc
import AkashProvider.Lib.Forall2

/-!
# Scale prices

What a group is charged is a sum over what it demands (`totalCost`), and more costs no less
(`scale_pricing_monotone`).  A quotient has 16 digits after the point, so with a scale of three
digits the total may have 19 (`order_without_price`).  `priceable_order_priced_iff` says when
there is a price.
-/

namespace AkashProvider

namespace Pricing.Storage

theorem mapValues_mapValues (ss : Storage) (f g : String → ℚ → ℚ) :
    (ss.mapValues f).mapValues g = ss.mapValues fun c x => g c (f c x) := by
  simp [mapValues]

theorem mapValues_id (ss : Storage) {f : String → ℚ → ℚ} (h : ∀ c x, f c x = x) :
    ss.mapValues f = ss := by
  simp [mapValues, h]

theorem keys_mapValues (ss : Storage) (f : String → ℚ → ℚ) :
    (ss.mapValues f).entries.map Prod.fst = ss.entries.map Prod.fst := by
  simp [mapValues]

theorem get_of_mem {ss : Storage} {e : String × ℚ} (h : e ∈ ss.entries) : ss.get e.1 = e.2 := by
  rw [get, Assoc.lookup_of_mem ss.nodup h]
  rfl

end Pricing.Storage

namespace ScalePricing

variable {S : PricingSdk} {fp : ScalePricing} {price : DecCoin} {gspec : GroupSpec}
  {coin : DecCoin}

/-! ## What a group demands -/

def cpuUnits (u : ResourceUnit) : Nat := u.resources.cpu.elim 0 (·.units.toNat)

def memoryQuantity (u : ResourceUnit) : Nat := u.resources.memory.elim 0 (·.quantity.toNat)

def cpuDemand (units : ResourceUnits) : Nat := (units.map fun u => cpuUnits u * u.count).sum

def memoryDemand (units : ResourceUnits) : Nat :=
  (units.map fun u => memoryQuantity u * u.count).sum

def volumeDemand (S : PricingSdk) (c : String) (count : Nat) (volumes : List Rtypes.Storage) :
    Nat :=
  (volumes.map fun v =>
    if c = storageClass S v.attributes then v.quantity.toNat * count else 0).sum

def storageDemand (S : PricingSdk) (c : String) (units : ResourceUnits) : Nat :=
  (units.map fun u => volumeDemand S c u.count u.resources.storage).sum

def endpointDemand (units : ResourceUnits) : Nat := (units.map (·.resources.endpoints.length)).sum

/-- The cost of the demands, with a way to divide by a mebibyte. -/
def costBy (S : PricingSdk) (perMi : ℚ → ℚ) (fp : ScalePricing) (units : ResourceUnits) : ℚ :=
  cpuDemand units * fp.cpuScale + perMi (memoryDemand units) * fp.memoryScale +
    (fp.storageScale.entries.map fun e => perMi (storageDemand S e.1 units) * e.2).sum +
    endpointDemand units * fp.endpointScale +
    fp.ipScale * getEndpointQuantityOfResourceGroup units .leasedIP

/-- The cost that is computed, with rounded quotients. -/
def totalCost (S : PricingSdk) : ScalePricing → ResourceUnits → ℚ :=
  costBy S fun quantity => S.div quantity unitMi

def exactCost (S : PricingSdk) : ScalePricing → ResourceUnits → ℚ :=
  costBy S fun quantity => quantity / unitMi

/-- The unit has a CPU and memory, and a price for each class of its volumes. -/
@[grind cases]
structure Priced (S : PricingSdk) (ss : Pricing.Storage) (u : ResourceUnit) : Prop where
  cpu : u.resources.cpu.isSome
  memory : u.resources.memory.isSome
  storage : ∀ v ∈ u.resources.storage, storageClass S v.attributes ∈ ss.entries.map Prod.fst

/-! ## The loops -/

theorem addVolumes_eq_ok_iff (count : Nat) (volumes : List Rtypes.Storage) :
    ∀ ss ss' : Pricing.Storage, volumes.foldlM (addVolume S count) ss = .ok ss' ↔
      (∀ v ∈ volumes, storageClass S v.attributes ∈ ss.entries.map Prod.fst) ∧
        ss' = ss.mapValues fun c total => total + volumeDemand S c count volumes := by
  induction volumes with
  | nil =>
    intro ss ss'
    rw [Pricing.Storage.mapValues_id ss (fun c x => by simp [volumeDemand])]
    simp [pure, Except.pure, eq_comm]
  | cons v volumes ih =>
    intro ss ss'
    rw [List.foldlM_cons, List.forall_mem_cons]
    by_cases hclass : storageClass S v.attributes ∈ ss.entries.map Prod.fst
    · have hadd : addVolume S count ss v = .ok (ss.mapValues fun c total =>
          if c = storageClass S v.attributes then total + v.quantity.toNat * count
          else total) := if_pos hclass
      rw [hadd]
      show volumes.foldlM (addVolume S count) _ = _ ↔ _
      rw [ih, Pricing.Storage.keys_mapValues, Pricing.Storage.mapValues_mapValues]
      simp only [hclass, true_and]
      have hsame : (fun (c : String) (x : ℚ) =>
          (if c = storageClass S v.attributes then x + v.quantity.toNat * count else x) +
            (volumeDemand S c count volumes : ℚ)) =
          fun c x => x + (volumeDemand S c count (v :: volumes) : ℚ) := by
        funext c x
        simp only [volumeDemand, List.map_cons, List.sum_cons]
        split
        · push_cast
          ring
        · push_cast
          ring
      rw [hsame]
    · have hadd : addVolume S count ss v =
          .error (.noPriceScaleForStorageClass (storageClass S v.attributes)) := if_neg hclass
      rw [hadd]
      exact iff_of_false (fun h => nomatch h) fun h => hclass h.1.1

/-- The totals, and what some units add to them. -/
def Totals.plus (S : PricingSdk) (t : Totals) (units : ResourceUnits) : Totals where
  cpu := t.cpu + cpuDemand units
  memory := t.memory + memoryDemand units
  storage := t.storage.mapValues fun c total => total + storageDemand S c units
  endpoint := t.endpoint + endpointDemand units

theorem Totals.plus_nil (t : Totals) : t.plus S [] = t := by
  simp [Totals.plus, cpuDemand, memoryDemand, endpointDemand, storageDemand,
    Pricing.Storage.mapValues_id]

theorem Totals.plus_cons (t : Totals) (u : ResourceUnit) (units : ResourceUnits) :
    t.plus S (u :: units) = (t.plus S [u]).plus S units := by
  simp [Totals.plus, cpuDemand, memoryDemand, endpointDemand, storageDemand,
    Pricing.Storage.mapValues_mapValues, add_assoc]

theorem addGroup_eq_ok_iff (t t' : Totals) (u : ResourceUnit) :
    addGroup S t u = .ok t' ↔ Priced S t.storage u ∧ t' = t.plus S [u] := by
  cases hcpu : u.resources.cpu with
  | none => grind [addGroup]
  | some cpu =>
    cases hmemory : u.resources.memory with
    | none => grind [addGroup]
    | some memory =>
      simp only [addGroup, hcpu, hmemory]
      rw [Except.bind_eq_ok_iff]
      have hpriced : Priced S t.storage u ↔ ∀ v ∈ u.resources.storage,
          storageClass S v.attributes ∈ t.storage.entries.map Prod.fst :=
        ⟨fun h => h.storage, fun h => ⟨by simp [hcpu], by simp [hmemory], h⟩⟩
      simp only [addVolumes_eq_ok_iff, hpriced, Totals.plus, cpuDemand, memoryDemand,
        storageDemand, endpointDemand, cpuUnits, memoryQuantity, hcpu, hmemory, Option.elim,
        List.map_cons, List.map_nil, List.sum_cons, List.sum_nil, Nat.add_zero, Nat.cast_mul,
        pure, Except.pure, Except.ok.injEq]
      constructor
      · simp_all
      · simp_all

theorem addGroups_eq_ok_iff (units : ResourceUnits) :
    ∀ t t' : Totals, units.foldlM (addGroup S) t = .ok t' ↔
      (∀ u ∈ units, Priced S t.storage u) ∧ t' = t.plus S units := by
  induction units with
  | nil =>
    intro t t'
    rw [Totals.plus_nil]
    simp [pure, Except.pure, eq_comm]
  | cons u units ih =>
    intro t t'
    rw [List.foldlM_cons, Except.bind_eq_ok_iff, List.forall_mem_cons, Totals.plus_cons]
    simp only [addGroup_eq_ok_iff, ih]
    have hkeys (u' : ResourceUnit) :
        Priced S (t.plus S [u]).storage u' ↔ Priced S t.storage u' := by
      have hsame : (t.plus S [u]).storage.entries.map Prod.fst =
          t.storage.entries.map Prod.fst := Pricing.Storage.keys_mapValues ..
      exact ⟨fun h => ⟨h.cpu, h.memory, hsame ▸ h.storage⟩,
        fun h => ⟨h.cpu, h.memory, hsame.symm ▸ h.storage⟩⟩
    constructor
    · simp_all
    · simp_all

/-! ## The price -/

def charges (S : PricingSdk) (fp : ScalePricing) (units : ResourceUnits) : Totals :=
  fp.costs S (Totals.plus S ⟨0, 0, fp.storageScale.mapValues fun _ _ => 0, 0⟩ units)

theorem charges_storage (units : ResourceUnits) :
    (charges S fp units).storage.entries.map Prod.snd =
      fp.storageScale.entries.map fun e => S.div (storageDemand S e.1 units) unitMi * e.2 := by
  simp only [charges, costs, Totals.plus, Pricing.Storage.mapValues_mapValues]
  simp only [Pricing.Storage.mapValues, List.map_map]
  refine List.map_congr_left fun e he => ?_
  simp [Pricing.Storage.get_of_mem he]

theorem charges_sum (units : ResourceUnits) :
    (charges S fp units).cpu + (charges S fp units).memory +
        ((charges S fp units).storage.entries.map Prod.snd).sum +
        (charges S fp units).endpoint +
        fp.ipScale * getEndpointQuantityOfResourceGroup units .leasedIP = totalCost S fp units := by
  rw [charges_storage]
  simp [charges, costs, Totals.plus, totalCost, costBy]

theorem legacyNewDecFromStr_eq_ok_iff {cost : ℚ} {dec : Int} :
    legacyNewDecFromStr S cost = .ok dec ↔
      (Decimal.Fits legacyPrecision cost ∧ Decimal.scaled legacyPrecision cost ≤ S.maxDec) ∧
        Decimal.scaled legacyPrecision cost = dec :=
  Except.ite_error_eq_ok_iff

@[grind cases]
structure NonNegative (cost : Totals) (ipTotal : ℚ) : Prop where
  cpu : 0 ≤ cost.cpu
  memory : 0 ≤ cost.memory
  storage : ∀ c ∈ cost.storage.entries.map Prod.snd, 0 ≤ c
  endpoint : 0 ≤ cost.endpoint
  ip : 0 ≤ ipTotal

theorem nonNegative_iff {cost : Totals} {ipTotal : ℚ} :
    ¬ (cost.cpu < 0 ∨ cost.memory < 0 ∨ cost.storage.isAnyNegative ∨ cost.endpoint < 0 ∨
      ipTotal < 0) ↔ NonNegative cost ipTotal := by
  have hstorage : ¬ cost.storage.isAnyNegative = true ↔
      ∀ c ∈ cost.storage.entries.map Prod.snd, 0 ≤ c := by
    simp only [Pricing.Storage.isAnyNegative, List.any_eq_true, decide_eq_true_eq, not_exists,
      not_and, not_lt, List.forall_mem_map]
  simp only [not_or, hstorage, not_lt]
  constructor
  · rintro ⟨hcpu, hmemory, hstorage, hendpoint, hip⟩
    exact ⟨hcpu, hmemory, hstorage, hendpoint, hip⟩
  · exact fun h => ⟨h.cpu, h.memory, h.storage, h.endpoint, h.ip⟩

theorem priceOfCosts_eq_ok_iff {denom : String} {cost : Totals} {ipTotal total : ℚ}
    (htotal : cost.cpu + cost.memory + (cost.storage.entries.map Prod.snd).sum + cost.endpoint +
      ipTotal = total) :
    priceOfCosts S denom cost ipTotal = .ok coin ↔
      NonNegative cost ipTotal ∧ 0 < total ∧ Decimal.Fits legacyPrecision total ∧
      Decimal.scaled legacyPrecision total ≤ S.maxDec ∧ total ≤ legacyMaxSortableDec ∧
      coin = ⟨denom, Decimal.scaled legacyPrecision total⟩ := by
  rw [priceOfCosts, htotal]
  split
  next hnegative =>
    exact iff_of_false (fun h => nomatch h) fun h => nonNegative_iff.mpr h.1 hnegative
  next hnegative =>
    simp only [nonNegative_iff.mp hnegative, true_and]
    split
    next hlt => exact iff_of_false (fun h => nomatch h) fun h => absurd h.1 hlt.le.not_gt
    next hlt =>
      split
      next heq => exact iff_of_false (fun h => nomatch h) fun h => h.1.ne' heq
      next hne =>
        have hpos : 0 < total := lt_of_le_of_ne (not_lt.mp hlt) (Ne.symm hne)
        rw [Except.bind_eq_ok_iff]
        simp only [legacyNewDecFromStr_eq_ok_iff, hpos, true_and]
        -- the bound on what was read is the bound on the total
        have hbound (hfits : Decimal.Fits legacyPrecision total) :
            (Decimal.scaled legacyPrecision total : ℚ) ≤
              legacyMaxSortableDec * 10 ^ legacyPrecision ↔ total ≤ legacyMaxSortableDec := by
          simp [hfits.scaled_eq]
        constructor
        · grind
        · simp_all

theorem calculatePrice_eq_ok_iff :
    fp.calculatePrice S price gspec = .ok coin ↔
      (∀ u ∈ gspec.resources, Priced S fp.storageScale u) ∧
      NonNegative (charges S fp gspec.resources)
        (fp.ipScale * getEndpointQuantityOfResourceGroup gspec.resources .leasedIP) ∧
      0 < totalCost S fp gspec.resources ∧
      Decimal.Fits legacyPrecision (totalCost S fp gspec.resources) ∧
      Decimal.scaled legacyPrecision (totalCost S fp gspec.resources) ≤ S.maxDec ∧
      totalCost S fp gspec.resources ≤ legacyMaxSortableDec ∧
      coin = ⟨price.denom, Decimal.scaled legacyPrecision (totalCost S fp gspec.resources)⟩ := by
  have hzero (u : ResourceUnit) :
      Priced S (fp.storageScale.mapValues fun _ _ => 0) u ↔ Priced S fp.storageScale u := by
    have hkeys := Pricing.Storage.keys_mapValues fp.storageScale fun _ _ => 0
    exact ⟨fun h => ⟨h.cpu, h.memory, hkeys ▸ h.storage⟩,
      fun h => ⟨h.cpu, h.memory, hkeys.symm ▸ h.storage⟩⟩
  rw [calculatePrice, Except.bind_eq_ok_iff, ← priceOfCosts_eq_ok_iff (charges_sum _)]
  simp only [addGroups_eq_ok_iff, hzero]
  constructor
  · rintro ⟨totals, ⟨hpriced, rfl⟩, hprice⟩
    exact ⟨hpriced, hprice⟩
  · rintro ⟨hpriced, hprice⟩
    exact ⟨_, ⟨hpriced, rfl⟩, hprice⟩

/-! ## More costs no less -/

@[grind cases]
structure NonNeg (fp : ScalePricing) : Prop where
  cpu : 0 ≤ fp.cpuScale
  memory : 0 ≤ fp.memoryScale
  storage : ∀ e ∈ fp.storageScale.entries, 0 ≤ e.2
  endpoint : 0 ≤ fp.endpointScale
  ip : 0 ≤ fp.ipScale

/-- `u` asks for at most what `u'` asks for, with the same attributes of its volumes. -/
@[grind cases]
structure AtMost (u u' : ResourceUnit) : Prop where
  count : u.count ≤ u'.count
  cpu : cpuUnits u ≤ cpuUnits u'
  memory : memoryQuantity u ≤ memoryQuantity u'
  storage : List.Forall₂ (fun v v' => v.attributes = v'.attributes ∧ v.quantity ≤ v'.quantity)
    u.resources.storage u'.resources.storage
  endpoints : u.resources.endpoints.length ≤ u'.resources.endpoints.length

theorem volumeDemand_mono {c : String} {u u' : ResourceUnit} (h : AtMost u u') :
    volumeDemand S c u.count u.resources.storage ≤
      volumeDemand S c u'.count u'.resources.storage := by
  refine h.storage.sum_map_le fun v v' ⟨hattributes, hquantity⟩ => ?_
  rw [hattributes]
  split
  · exact Nat.mul_le_mul (UInt64.le_iff_toNat_le.mp hquantity) h.count
  · exact le_rfl

theorem costBy_mono {perMi : ℚ → ℚ} (hmono : Monotone perMi) (hfp : fp.NonNeg)
    {units units' : ResourceUnits} (hunits : List.Forall₂ AtMost units units')
    (hips : getEndpointQuantityOfResourceGroup units .leasedIP ≤
      getEndpointQuantityOfResourceGroup units' .leasedIP) :
    costBy S perMi fp units ≤ costBy S perMi fp units' := by
  have hcpu : cpuDemand units ≤ cpuDemand units' :=
    hunits.sum_map_le fun u u' h => Nat.mul_le_mul h.cpu h.count
  have hmemory : memoryDemand units ≤ memoryDemand units' :=
    hunits.sum_map_le fun u u' h => Nat.mul_le_mul h.memory h.count
  have hstorage (c : String) : storageDemand S c units ≤ storageDemand S c units' :=
    hunits.sum_map_le fun u u' h => volumeDemand_mono h
  have hendpoints : endpointDemand units ≤ endpointDemand units' :=
    hunits.sum_map_le fun u u' h => h.endpoints
  refine add_le_add (add_le_add (add_le_add (add_le_add ?_ ?_) ?_) ?_) ?_
  · exact mul_le_mul_of_nonneg_right (Nat.cast_le.mpr hcpu) hfp.cpu
  · exact mul_le_mul_of_nonneg_right (hmono (Nat.cast_le.mpr hmemory)) hfp.memory
  · exact List.sum_le_sum fun e he =>
      mul_le_mul_of_nonneg_right (hmono (Nat.cast_le.mpr (hstorage e.1))) (hfp.storage e he)
  · exact mul_le_mul_of_nonneg_right (Nat.cast_le.mpr hendpoints) hfp.endpoint
  · exact mul_le_mul_of_nonneg_left (Nat.cast_le.mpr hips) hfp.ip

/-- Of two groups with the same units and volumes, the one that asks for at most as much does not
get a higher price. -/
theorem scale_pricing_monotone {price' : DecCoin} {gspec' : GroupSpec} {coin' : DecCoin}
    (hmono : ∀ b, 0 < b → Monotone fun a => S.div a b) (hfp : fp.NonNeg)
    (hdenom : price.denom = price'.denom)
    (hunits : List.Forall₂ AtMost gspec.resources gspec'.resources)
    (hips : getEndpointQuantityOfResourceGroup gspec.resources .leasedIP ≤
      getEndpointQuantityOfResourceGroup gspec'.resources .leasedIP)
    (hprice : fp.calculatePrice S price gspec = .ok coin)
    (hprice' : fp.calculatePrice S price' gspec' = .ok coin') :
    coin.denom = coin'.denom ∧ coin.amount ≤ coin'.amount := by
  obtain ⟨-, -, -, hfits, -, -, rfl⟩ := calculatePrice_eq_ok_iff.mp hprice
  obtain ⟨-, -, -, hfits', -, -, rfl⟩ := calculatePrice_eq_ok_iff.mp hprice'
  refine ⟨hdenom, (Decimal.scaled_le_scaled hfits hfits').mpr ?_⟩
  exact costBy_mono (hmono unitMi (by norm_num [unitMi])) hfp hunits hips

/-- One unit with a thousandth of a CPU and some memory. -/
def memoryGroup (quantity : UInt64) : GroupSpec where
  name := "westcoast"
  requirements := []
  resources := [⟨⟨1, some ⟨1, []⟩, some ⟨quantity, []⟩, [], none, []⟩, 1⟩]

def memoryPricing (memoryScale : ℚ) : ScalePricing :=
  ⟨1, memoryScale, ⟨[], List.nodup_nil⟩, 0, 0⟩

/-- Half a gibibyte and a gibibyte. -/
theorem scale_pricing_monotone_memory :
    let fp := memoryPricing (1 / 2)
    let price := fun quantity => fp.calculatePrice .reference ⟨"uakt", 0⟩ (memoryGroup quantity)
    price (2 ^ 29) = .ok ⟨"uakt", 257 * 10 ^ 18⟩ ∧ price (2 ^ 30) = .ok ⟨"uakt", 513 * 10 ^ 18⟩ ∧
      (257 * 10 ^ 18 : Int) ≤ 513 * 10 ^ 18 := by
  intro fp price
  have hsmall : price (2 ^ 29) = .ok ⟨"uakt", 257 * 10 ^ 18⟩ := by decide +kernel
  have hlarge : price (2 ^ 30) = .ok ⟨"uakt", 513 * 10 ^ 18⟩ := by decide +kernel
  have hunits : List.Forall₂ AtMost (memoryGroup (2 ^ 29)).resources
      (memoryGroup (2 ^ 30)).resources :=
    .cons ⟨by decide, by decide, by decide, .nil, by decide⟩ .nil
  have hfp : fp.NonNeg := ⟨zero_le_one, by norm_num [fp, memoryPricing], nofun, le_rfl, le_rfl⟩
  exact ⟨hsmall, hlarge, (scale_pricing_monotone PricingSdk.reference_div_mono hfp rfl hunits
    (by decide) hsmall hlarge).2⟩

/-! ## Groups that get a price -/

theorem nonNeg_of_made {cpuScale memoryScale endpointScale ipScale : ℚ}
    {storageScale : Pricing.Storage}
    (hmade : makeScalePricing cpuScale memoryScale storageScale endpointScale ipScale = .ok fp) :
    fp.NonNeg := by
  simp only [makeScalePricing] at hmade
  split at hmade
  · cases hmade
  · split at hmade
    · cases hmade
    · next hnegative =>
      cases hmade
      simp only [not_or, not_lt, Bool.not_eq_true, Pricing.Storage.isAnyNegative,
        List.any_eq_false, decide_eq_true_eq] at hnegative
      obtain ⟨hcpu, hmemory, hstorage, hendpoint, hip⟩ := hnegative
      exact ⟨hcpu, hmemory, hstorage, hendpoint, hip⟩

/-- The mebibytes of a number of bytes, rounded to 16 digits, in units of the last. -/
def mebibytes (n : Nat) : Nat := (n * 10 ^ 16 + 2 ^ 19) / 2 ^ 20

theorem div_unitMi (hS : S.Lawful) (n : Nat) : S.div n unitMi = mebibytes n / 10 ^ 16 := by
  have hhalf : (n : ℚ) / unitMi * 10 ^ 16 + 1 / 2 =
      ((n * 10 ^ 16 + 2 ^ 19 : ℕ) : ℤ) / ((2 ^ 20 : ℕ) : ℚ) := by
    rw [unitMi, Int.cast_natCast, Nat.cast_add, Nat.cast_mul]
    norm_num
    ring
  rw [hS.div_eq _ _ (Nat.cast_nonneg n) (by norm_num [unitMi]), Decimal.roundTo, hhalf,
    Rat.floor_intCast_div_natCast, ← Int.natCast_ediv, Int.cast_natCast, mebibytes]

theorem half_le_mebibytes (n : Nat) : (n : ℚ) / unitMi ≤ 2 * (mebibytes n / 10 ^ 16) := by
  have hle : n * 10 ^ 16 ≤ 2 ^ 21 * mebibytes n := by
    unfold mebibytes
    rcases Nat.eq_zero_or_pos n with rfl | hn
    · omega
    · omega
  have hcast : (n : ℚ) * 10 ^ 16 ≤ 2 ^ 21 * mebibytes n := by
    exact_mod_cast hle
  rw [unitMi, ← mul_div_assoc, div_le_div_iff₀ (by positivity) (by positivity)]
  linarith

theorem div_nonneg (hS : S.Lawful) (n : Nat) : 0 ≤ S.div n unitMi := by
  rw [div_unitMi hS]
  positivity

theorem nonNegative_charges (hS : S.Lawful) (hfp : fp.NonNeg) (units : ResourceUnits) :
    NonNegative (charges S fp units)
      (fp.ipScale * getEndpointQuantityOfResourceGroup units .leasedIP) where
  cpu := by
    simp only [charges, costs, Totals.plus, zero_add]
    exact mul_nonneg (Nat.cast_nonneg _) hfp.cpu
  memory := by
    simp only [charges, costs, Totals.plus, zero_add]
    exact mul_nonneg (div_nonneg hS _) hfp.memory
  storage := by
    rw [charges_storage, List.forall_mem_map]
    exact fun e he => mul_nonneg (div_nonneg hS _) (hfp.storage e he)
  endpoint := by
    simp only [charges, costs, Totals.plus, zero_add]
    exact mul_nonneg (Nat.cast_nonneg _) hfp.endpoint
  ip := mul_nonneg hfp.ip (Nat.cast_nonneg _)

theorem exactCost_le (hS : S.Lawful) (hfp : fp.NonNeg) (units : ResourceUnits) :
    exactCost S fp units ≤ 2 * totalCost S fp units := by
  have hdiv (n : Nat) : (n : ℚ) / unitMi ≤ 2 * S.div n unitMi := by
    rw [div_unitMi hS]
    exact half_le_mebibytes n
  have hcpu : 0 ≤ cpuDemand units * fp.cpuScale := mul_nonneg (Nat.cast_nonneg _) hfp.cpu
  have hmemory : memoryDemand units / unitMi * fp.memoryScale ≤
      2 * (S.div (memoryDemand units) unitMi * fp.memoryScale) := by
    rw [← mul_assoc]
    exact mul_le_mul_of_nonneg_right (hdiv _) hfp.memory
  have hstorage : (fp.storageScale.entries.map fun e =>
        storageDemand S e.1 units / unitMi * e.2).sum ≤
      2 * (fp.storageScale.entries.map fun e =>
        S.div (storageDemand S e.1 units) unitMi * e.2).sum := by
    rw [← List.sum_map_mul_left]
    refine List.sum_le_sum fun e he => ?_
    rw [← mul_assoc]
    exact mul_le_mul_of_nonneg_right (hdiv _) (hfp.storage e he)
  have hendpoint : 0 ≤ endpointDemand units * fp.endpointScale :=
    mul_nonneg (Nat.cast_nonneg _) hfp.endpoint
  have hip : 0 ≤ fp.ipScale * getEndpointQuantityOfResourceGroup units .leasedIP :=
    mul_nonneg hfp.ip (Nat.cast_nonneg _)
  simp only [exactCost, totalCost, costBy]
  linarith

/-- The scales have at most `digits` digits after the point. -/
structure HasDigits (digits : Nat) (fp : ScalePricing) : Prop where
  cpu : Decimal.Fits digits fp.cpuScale
  memory : Decimal.Fits digits fp.memoryScale
  storage : ∀ e ∈ fp.storageScale.entries, Decimal.Fits digits e.2
  endpoint : Decimal.Fits digits fp.endpointScale
  ip : Decimal.Fits digits fp.ipScale

/-- What the demands cost by the digits of the scales: a count for 18 digits more, and mebibytes,
which have 16, for two more. -/
def digitCost (S : PricingSdk) (digits : Nat) (fp : ScalePricing) (us : ResourceUnits) : ℤ :=
  10 ^ 18 * (cpuDemand us * Decimal.scaled digits fp.cpuScale +
      endpointDemand us * Decimal.scaled digits fp.endpointScale +
      getEndpointQuantityOfResourceGroup us .leasedIP * Decimal.scaled digits fp.ipScale) +
    100 * (mebibytes (memoryDemand us) * Decimal.scaled digits fp.memoryScale +
      (fp.storageScale.entries.map fun e =>
        mebibytes (storageDemand S e.1 us) * Decimal.scaled digits e.2).sum)

theorem sum_storage_eq (hS : S.Lawful) {digits : Nat} (us : ResourceUnits) :
    ∀ {l : List (String × ℚ)}, (∀ e ∈ l, Decimal.Fits digits e.2) →
      (l.map fun e => S.div (storageDemand S e.1 us) unitMi * e.2).sum * 10 ^ 18 * 10 ^ digits =
        100 * ((l.map fun e => (mebibytes (storageDemand S e.1 us) : ℤ) *
          Decimal.scaled digits e.2).sum : ℤ) := by
  intro l
  induction l with
  | nil => simp
  | cons e l ih =>
    intro h
    have hrest := ih fun e' he' => h e' (List.mem_cons_of_mem e he')
    rw [List.map_cons, List.sum_cons, List.map_cons, List.sum_cons, add_mul, add_mul, hrest,
      div_unitMi hS, Int.cast_add, Int.cast_mul, (h e List.mem_cons_self).scaled_eq]
    push_cast
    ring

theorem totalCost_eq_digitCost (hS : S.Lawful) {digits : Nat} (h : fp.HasDigits digits)
    (us : ResourceUnits) : totalCost S fp us * 10 ^ legacyPrecision * ((10 ^ digits : ℤ) : ℚ) =
      digitCost S digits fp us := by
  have hstorage := sum_storage_eq hS us h.storage
  simp only [totalCost, costBy, digitCost, legacyPrecision, div_unitMi hS] at hstorage ⊢
  push_cast at hstorage ⊢
  rw [h.cpu.scaled_eq, h.memory.scaled_eq, h.endpoint.scaled_eq, h.ip.scaled_eq]
  linear_combination hstorage

/-- What the rounding of the mebibytes adds to the cost. -/
def roundingGain (S : PricingSdk) (fp : ScalePricing) (us : ResourceUnits) : ℚ :=
  let gain (n : Nat) : ℚ := mebibytes n / 10 ^ 16 - n / unitMi
  gain (memoryDemand us) * fp.memoryScale +
    (fp.storageScale.entries.map fun e => gain (storageDemand S e.1 us) * e.2).sum

theorem totalCost_eq_add (hS : S.Lawful) (us : ResourceUnits) :
    totalCost S fp us = exactCost S fp us + roundingGain S fp us := by
  have hstorage : (fp.storageScale.entries.map fun e =>
        (mebibytes (storageDemand S e.1 us) : ℚ) / 10 ^ 16 * e.2).sum =
      (fp.storageScale.entries.map fun e => storageDemand S e.1 us / unitMi * e.2).sum +
        (fp.storageScale.entries.map fun e => ((mebibytes (storageDemand S e.1 us) : ℚ) / 10 ^ 16 -
          storageDemand S e.1 us / unitMi) * e.2).sum := by
    rw [← List.sum_map_add]
    exact congrArg List.sum (List.map_congr_left fun e _ => by ring)
  simp only [totalCost, exactCost, costBy, roundingGain, div_unitMi hS]
  linear_combination hstorage

/-- A group whose resources all have a price, and whose exact cost is at least one, gets a price
exactly if the digits of its scales and byte counts come to no more than 18, and the bytes are
not rounded over the largest sortable decimal. -/
theorem priceable_order_priced_iff {cpuScale memoryScale endpointScale ipScale : ℚ}
    {storageScale : Pricing.Storage} {digits : Nat} (hS : S.Lawful)
    (hmade : makeScalePricing cpuScale memoryScale storageScale endpointScale ipScale = .ok fp)
    (hdigits : fp.HasDigits digits)
    (hpriced : ∀ u ∈ gspec.resources, Priced S fp.storageScale u)
    (hcost : 1 ≤ exactCost S fp gspec.resources) :
    (∃ coin, fp.calculatePrice S price gspec = .ok coin) ↔
      10 ^ digits ∣ digitCost S digits fp gspec.resources ∧
        roundingGain S fp gspec.resources ≤
          legacyMaxSortableDec - exactCost S fp gspec.resources := by
  have hfp : fp.NonNeg := nonNeg_of_made hmade
  rw [← Decimal.fits_iff_dvd (by positivity) (totalCost_eq_digitCost hS hdigits gspec.resources),
    le_sub_iff_add_le', ← totalCost_eq_add hS]
  constructor
  · rintro ⟨coin, hcoin⟩
    obtain ⟨-, -, -, hfits, -, hmax, -⟩ := calculatePrice_eq_ok_iff.mp hcoin
    exact ⟨hfits, hmax⟩
  · rintro ⟨hfits, hmax⟩
    have hpos : 0 < totalCost S fp gspec.resources := by
      linarith [exactCost_le hS hfp gspec.resources]
    have hread : Decimal.scaled legacyPrecision (totalCost S fp gspec.resources) ≤ S.maxDec := by
      refine le_trans ?_ hS.maxSortable_le
      rw [← Int.cast_le (R := ℚ), hfits.scaled_eq]
      push_cast
      rw [pow_add]
      exact mul_le_mul_of_nonneg_right hmax (by positivity)
    exact ⟨_, calculatePrice_eq_ok_iff.mpr
      ⟨hpriced, nonNegative_charges hS hfp _, hpos, hfits, hread, hmax, rfl⟩⟩

theorem priced_memoryGroup (memoryScale : ℚ) (quantity : UInt64) :
    ∀ u ∈ (memoryGroup quantity).resources,
      Priced .reference (memoryPricing memoryScale).storageScale u := by
  intro u hu
  cases List.mem_singleton.mp hu
  exact ⟨rfl, rfl, fun _ hv => (nomatch hv)⟩

/-- One byte more than a gibibyte, and a price of a hundredth for each mebibyte. -/
theorem priceable_order_priced :
    ∃ coin, (memoryPricing (1 / 100)).calculatePrice .reference ⟨"uakt", 0⟩
      (memoryGroup (2 ^ 30 + 1)) = .ok coin := by
  have hmade : makeScalePricing 1 (1 / 100) ⟨[], List.nodup_nil⟩ 0 0 =
      .ok (memoryPricing (1 / 100)) := by decide +kernel
  have hdigits : (memoryPricing (1 / 100)).HasDigits 2 :=
    ⟨by decide +kernel, by decide +kernel, fun _ he => (nomatch he), by decide +kernel,
      by decide +kernel⟩
  exact (priceable_order_priced_iff PricingSdk.Lawful.reference hmade hdigits
    (priced_memoryGroup _ (2 ^ 30 + 1)) (by decide +kernel)).mpr
      ⟨by decide +kernel, by decide +kernel⟩

/-- The same memory, and a price of a thousandth for each mebibyte.  The total has 19 digits after
the point. -/
theorem order_without_price :
    let fp := memoryPricing (1 / 1000)
    let gspec := memoryGroup (2 ^ 30 + 1)
    makeScalePricing 1 (1 / 1000) ⟨[], List.nodup_nil⟩ 0 0 = .ok fp ∧
      (∀ u ∈ gspec.resources, Priced .reference fp.storageScale u) ∧
      1 ≤ exactCost .reference fp gspec.resources ∧
      exactCost .reference fp gspec.resources ≤ legacyMaxSortableDec ∧
      totalCost .reference fp gspec.resources = 20240000009536743164 / 10 ^ 19 ∧
      fp.calculatePrice .reference ⟨"uakt", 0⟩ gspec = .error .decimal := by
  refine ⟨by decide +kernel, priced_memoryGroup _ _, by decide +kernel, by decide +kernel,
    by decide +kernel, by decide +kernel⟩

end ScalePricing

end AkashProvider
