import AkashProvider.Bidengine.ScalePrices

/-!
# Random range prices

The lower bound does not look at the price of the order, so an order that offers less is bid for
at more (`random_price_above_order`).  The width of the range is put in 64 bits.
`random_price_in_range_iff` says that nothing else goes wrong.
-/

namespace AkashProvider

inductive RandomPricingErr where
  /-- A panic: a group has no memory. -/
  | nilPointer
  /-- A panic: "Int64() out of bound". -/
  | int64OutOfBound
  /-- A panic: "negative decimal coin amount". -/
  | negativeAmount
  /-- The error of the reader of random numbers. -/
  | rand
deriving DecidableEq

namespace RandomRangePricing

/-! ## The model -/

def unitGi : Int := 2 ^ 30

def minGroupMemPrice : Nat := 50

def maxGroupMemPrice : Nat := 1048576

/-- The number of the draws in a unit of the range. -/
def scale : Int := 10000

/-- A whole number as a decimal of the chain, in its smallest fraction. -/
def legacyNewDec (n : Int) : Int := n * 10 ^ legacyPrecision

/-- The denomination is that of an order of the chain, which is valid. -/
def newDecCoinFromDec (denom : String) (amount : Int) : Except RandomPricingErr DecCoin :=
  if amount < 0 then .error .negativeAmount else .ok ⟨denom, amount⟩

def truncateInt64 (dec : Int) : Except RandomPricingErr Int :=
  let n := dec.tdiv (10 ^ legacyPrecision)
  if -2 ^ 63 ≤ n ∧ n < 2 ^ 63 then .ok n else .error .int64OutOfBound

def addMemory (mem : Int) (group : ResourceUnit) : Except RandomPricingErr Int :=
  match group.resources.memory with
  | some memory => .ok (mem + memory.quantity.toNat * group.count)
  | none => .error .nilPointer

/-- `price` is `gspec.Price()`. -/
def calculatePriceRange (price : DecCoin) (gspec : GroupSpec) :
    Except RandomPricingErr (DecCoin × DecCoin) := do
  let mem ← gspec.resources.foldlM addMemory 0
  let cmin := legacyNewDec ((mem * minGroupMemPrice).tdiv unitGi)
  let cmax := legacyNewDec ((mem * maxGroupMemPrice).tdiv unitGi)
  let cmax := if cmax > price.amount then price.amount else cmax
  let cmin := if cmin = 0 then legacyNewDec 1 else cmin
  let cmax := if cmax = 0 then legacyNewDec 1 else cmax
  let minPrice ← newDecCoinFromDec price.denom cmin
  let maxPrice ← newDecCoinFromDec price.denom cmax
  return (minPrice, maxPrice)

/-- `rand n` is the number below `n` that is drawn. -/
def calculatePrice (rand : Int → Except RandomPricingErr Int) (price : DecCoin)
    (gspec : GroupSpec) : Except RandomPricingErr DecCoin := do
  let (minPrice, maxPrice) ← calculatePriceRange price gspec
  if minPrice = maxPrice then
    return maxPrice
  else
    -- a product with a whole number is exact
    let delta := (maxPrice.amount - minPrice.amount) * scale
    let minbid ← truncateInt64 delta
    let minbid := if minbid < 1 then 1 else minbid
    let val ← rand minbid
    let scaledValue := ((legacyNewDec val).tdiv scale).tdiv 100
    newDecCoinFromDec minPrice.denom (minPrice.amount + scaledValue)

/-! ## The range -/

section

variable {rand : Int → Except RandomPricingErr Int} {price : DecCoin} {gspec : GroupSpec}
  {coin : DecCoin}

/-- What the units pay at a price for a gibibyte, in whole numbers. -/
def memoryPrice (perGi : Nat) (units : ResourceUnits) : Nat :=
  ScalePricing.memoryDemand units * perGi / 2 ^ 30

def lowest (units : ResourceUnits) : Int :=
  legacyNewDec (max 1 (memoryPrice minGroupMemPrice units) : Nat)

def highest (price : Int) (units : ResourceUnits) : Int :=
  let memory := legacyNewDec (memoryPrice maxGroupMemPrice units)
  if memory = 0 then legacyNewDec 1 else min price memory

variable {units : ResourceUnits}

theorem addMemory_units (hmemory : ∀ u ∈ units, u.resources.memory.isSome) :
    ∀ mem : Int, units.foldlM addMemory mem = .ok (mem + ScalePricing.memoryDemand units) := by
  induction units with
  | nil =>
    intro mem
    exact congrArg Except.ok (add_zero mem).symm
  | cons u units ih =>
    intro mem
    obtain ⟨memory, hu⟩ := Option.isSome_iff_exists.mp (hmemory u List.mem_cons_self)
    have hadd : addMemory mem u = .ok (mem + memory.quantity.toNat * u.count) := by
      rw [addMemory, hu]
    rw [List.foldlM_cons, hadd]
    show units.foldlM addMemory _ = _
    rw [ih fun u' hu' => hmemory u' (List.mem_cons_of_mem u hu')]
    simp only [ScalePricing.memoryDemand, ScalePricing.memoryQuantity, hu, List.map_cons,
      List.sum_cons, Option.elim]
    push_cast
    ring_nf

theorem memoryPrice_eq (perGi : Nat) (units : ResourceUnits) :
    ((0 + ScalePricing.memoryDemand units : Int) * perGi).tdiv unitGi =
      memoryPrice perGi units := by
  rw [zero_add, Int.tdiv_eq_ediv_of_nonneg (by positivity), memoryPrice]
  rfl

variable {n : Int}

theorem legacyNewDec_eq_zero : legacyNewDec n = 0 ↔ n = 0 := by simp [legacyNewDec]

theorem legacyNewDec_mono {m n : Int} : legacyNewDec m ≤ legacyNewDec n ↔ m ≤ n :=
  mul_le_mul_iff_of_pos_right (by positivity)

theorem lowest_pos (units : ResourceUnits) : 0 < lowest units := by
  have hone : legacyNewDec 1 ≤ lowest units := legacyNewDec_mono.mpr (by omega)
  exact lt_of_lt_of_le (by decide) hone

theorem legacyNewDec_pos (h : 0 < n) : 0 < legacyNewDec n := mul_pos h (by positivity)

theorem legacyNewDec_memoryPrice_nonneg (perGi : Nat) (units : ResourceUnits) :
    0 ≤ legacyNewDec (memoryPrice perGi units) :=
  mul_nonneg (Int.natCast_nonneg _) (by positivity)

theorem highest_pos (hprice : 0 < price.amount) (units : ResourceUnits) :
    0 < highest price.amount units := by
  rw [highest]
  have hnonneg := legacyNewDec_memoryPrice_nonneg maxGroupMemPrice units
  split
  · exact legacyNewDec_pos one_pos
  · next hne => exact lt_min hprice (lt_of_le_of_ne hnonneg (Ne.symm hne))

theorem newDecCoinFromDec_of_pos {denom : String} {amount : Int} (h : 0 < amount) :
    newDecCoinFromDec denom amount = .ok ⟨denom, amount⟩ :=
  if_neg h.not_gt

theorem lowest_eq (units : ResourceUnits) :
    (if legacyNewDec (memoryPrice minGroupMemPrice units) = 0 then legacyNewDec 1
      else legacyNewDec (memoryPrice minGroupMemPrice units)) = lowest units := by
  simp only [legacyNewDec_eq_zero, Int.natCast_eq_zero, lowest]
  split
  · next hzero =>
    rw [hzero]
    rfl
  · next hne => rw [max_eq_right (Nat.one_le_iff_ne_zero.mpr hne)]

theorem highest_eq (hprice : 0 < price.amount) (units : ResourceUnits) :
    (let cmax := legacyNewDec (memoryPrice maxGroupMemPrice units)
     let cmax := if cmax > price.amount then price.amount else cmax
     if cmax = 0 then legacyNewDec 1 else cmax) = highest price.amount units := by
  rw [highest]
  generalize legacyNewDec (memoryPrice maxGroupMemPrice units) = memory
  by_cases hmemory : memory = 0
  · simp [hmemory, hprice.not_gt]
  · rcases lt_or_ge price.amount memory with hover | hover
    · simp [hmemory, hover, hover.le, hprice.ne']
    · simp [hmemory, hover, hover.not_gt]

theorem calculatePriceRange_eq (hprice : 0 < price.amount)
    (hmemory : ∀ u ∈ gspec.resources, u.resources.memory.isSome) :
    calculatePriceRange price gspec =
      .ok (⟨price.denom, lowest gspec.resources⟩,
        ⟨price.denom, highest price.amount gspec.resources⟩) := by
  have hlow := memoryPrice_eq minGroupMemPrice gspec.resources
  have hhigh := memoryPrice_eq maxGroupMemPrice gspec.resources
  refine Except.bind_eq_ok_iff.mpr ⟨_, addMemory_units hmemory 0, ?_⟩
  refine Except.bind_eq_ok_iff.mpr ⟨⟨price.denom, lowest gspec.resources⟩, ?_, ?_⟩
  · rw [hlow, lowest_eq]
    exact newDecCoinFromDec_of_pos (lowest_pos _)
  · refine Except.bind_eq_ok_iff.mpr ⟨⟨price.denom, highest price.amount gspec.resources⟩, ?_, rfl⟩
    rw [hhigh, highest_eq hprice]
    exact newDecCoinFromDec_of_pos (highest_pos hprice _)

theorem lowest_le_highest (h : lowest units ≤ price.amount) :
    lowest units ≤ highest price.amount units := by
  have hle : memoryPrice minGroupMemPrice units ≤ memoryPrice maxGroupMemPrice units :=
    Nat.div_le_div_right (Nat.mul_le_mul_left _ (by decide))
  simp only [highest, legacyNewDec_eq_zero, Int.natCast_eq_zero]
  split
  · next hzero =>
    rw [hzero, Nat.le_zero] at hle
    rw [lowest, hle]
    exact le_rfl
  · next hne =>
    refine le_min h (legacyNewDec_mono.mpr (Nat.cast_le.mpr ?_))
    exact max_le (Nat.one_le_iff_ne_zero.mpr hne) hle

theorem highest_le (h : lowest units ≤ price.amount) :
    highest price.amount units ≤ price.amount := by
  simp only [highest]
  split
  · exact le_trans (legacyNewDec_mono.mpr (Nat.one_le_cast.mpr (le_max_left _ _))) h
  · exact min_le_left _ _

/-! ## The draw -/

def steps (price : Int) (units : ResourceUnits) : Int :=
  ((highest price units - lowest units) * scale).tdiv (10 ^ legacyPrecision)

theorem quo_step (val : Int) : ((legacyNewDec val).tdiv scale).tdiv 100 = val * 10 ^ 12 := by
  have hscale : legacyNewDec val = val * 10 ^ 14 * scale := by
    simp only [legacyNewDec, legacyPrecision, scale]
    ring
  have hcent : val * 10 ^ 14 = val * 10 ^ 12 * 100 := by ring
  rw [hscale, Int.mul_tdiv_cancel _ (by decide), hcent, Int.mul_tdiv_cancel _ (by decide)]

theorem truncateInt64_eq_ok_iff {dec n : Int} :
    truncateInt64 dec = .ok n ↔
      (-2 ^ 63 ≤ dec.tdiv (10 ^ legacyPrecision) ∧ dec.tdiv (10 ^ legacyPrecision) < 2 ^ 63) ∧
        dec.tdiv (10 ^ legacyPrecision) = n :=
  Except.ite_error_eq_ok_iff

theorem calculatePrice_of_eq (rand : Int → Except RandomPricingErr Int)
    (hprice : 0 < price.amount) (hmemory : ∀ u ∈ gspec.resources, u.resources.memory.isSome)
    (heq : lowest gspec.resources = highest price.amount gspec.resources) :
    calculatePrice rand price gspec = .ok ⟨price.denom, lowest gspec.resources⟩ := by
  refine Except.bind_eq_ok_iff.mpr ⟨_, calculatePriceRange_eq hprice hmemory, ?_⟩
  rw [← heq]
  exact if_pos rfl

theorem calculatePrice_of_ne (rand : Int → Except RandomPricingErr Int)
    (hprice : 0 < price.amount) (hmemory : ∀ u ∈ gspec.resources, u.resources.memory.isSome)
    (hne : lowest gspec.resources ≠ highest price.amount gspec.resources) :
    calculatePrice rand price gspec = .ok coin ↔
      (-2 ^ 63 ≤ steps price.amount gspec.resources ∧ steps price.amount gspec.resources < 2 ^ 63) ∧
      ∃ val, rand (max 1 (steps price.amount gspec.resources)) = .ok val ∧
        newDecCoinFromDec price.denom (lowest gspec.resources + val * 10 ^ 12) = .ok coin := by
  have hdraw : calculatePrice rand price gspec =
      (truncateInt64 ((highest price.amount gspec.resources - lowest gspec.resources) * scale) >>=
        fun minbid => rand (if minbid < 1 then 1 else minbid) >>=
        fun val => newDecCoinFromDec price.denom
          (lowest gspec.resources + ((legacyNewDec val).tdiv scale).tdiv 100)) := by
    rw [calculatePrice, calculatePriceRange_eq hprice hmemory]
    exact if_neg fun heq => hne (DecCoin.mk.inj heq).2
  have hmax (n : Int) : (if n < 1 then 1 else n) = max 1 n := by split <;> omega
  rw [hdraw]
  simp only [Except.bind_eq_ok_iff, truncateInt64_eq_ok_iff, quo_step, hmax]
  constructor
  · rintro ⟨minbid, ⟨hbounds, rfl⟩, hval⟩
    exact ⟨hbounds, hval⟩
  · rintro ⟨hbounds, hval⟩
    exact ⟨_, ⟨hbounds, rfl⟩, hval⟩

theorem steps_nonneg (h : lowest units ≤ price.amount) :
    0 ≤ steps price.amount units :=
  Int.tdiv_nonneg (mul_nonneg (sub_nonneg.mpr (lowest_le_highest h)) (by decide)) (by positivity)

theorem lowest_add_le_highest (h : lowest units ≤ price.amount) {val : Int}
    (hval : val < max 1 (steps price.amount units)) :
    lowest units + val * 10 ^ 12 ≤ highest price.amount units := by
  have horder := lowest_le_highest h
  have hnonneg : 0 ≤ (highest price.amount units - lowest units) * scale :=
    mul_nonneg (sub_nonneg.mpr horder) (by decide)
  have hsteps := Int.ediv_mul_le ((highest price.amount units - lowest units) * scale)
    (b := 10 ^ legacyPrecision) (by positivity)
  rw [← Int.tdiv_eq_ediv_of_nonneg hnonneg] at hsteps
  change steps price.amount units * _ ≤ _ at hsteps
  simp only [scale, legacyPrecision] at hsteps
  omega

/-- A price is computed, and is positive and not above that of the order, exactly if the order
offers at least the lower bound and the steps between the bounds fit in 64 bits.  Whenever a price
is computed, it is positive. -/
theorem random_price_in_range_iff
    (hrand : ∀ n, 0 < n → ∃ val, rand n = .ok val ∧ 0 ≤ val ∧ val < n)
    (hprice : 0 < price.amount) (hmemory : ∀ u ∈ gspec.resources, u.resources.memory.isSome) :
    ((∃ coin, calculatePrice rand price gspec = .ok coin ∧ 0 < coin.amount ∧
        coin.amount ≤ price.amount) ↔
      lowest gspec.resources ≤ price.amount ∧ steps price.amount gspec.resources < 2 ^ 63) ∧
    ∀ coin, calculatePrice rand price gspec = .ok coin →
      coin.denom = price.denom ∧ 0 < coin.amount := by
  have hlow := lowest_pos gspec.resources
  by_cases heq : lowest gspec.resources = highest price.amount gspec.resources
  · have hok := calculatePrice_of_eq rand hprice hmemory heq
    have hsteps : steps price.amount gspec.resources = 0 := by simp [steps, heq]
    simp only [hok, hsteps, Except.ok.injEq, exists_eq_left', hlow, true_and]
    refine ⟨by simp, ?_⟩
    rintro coin rfl
    exact ⟨rfl, hlow⟩
  · obtain ⟨val, hval, hnonneg, hlt⟩ := hrand (max 1 (steps price.amount gspec.resources))
      (lt_of_lt_of_le one_pos (le_max_left _ _))
    have hpos : 0 < lowest gspec.resources + val * 10 ^ 12 :=
      add_pos_of_pos_of_nonneg hlow (by positivity)
    have hok (coin : DecCoin) : calculatePrice rand price gspec = .ok coin ↔ _ :=
      calculatePrice_of_ne rand hprice hmemory heq
    simp only [hval, Except.ok.injEq, exists_eq_left', newDecCoinFromDec_of_pos hpos] at hok
    simp only [hok]
    refine ⟨⟨?_, ?_⟩, ?_⟩
    · rintro ⟨coin, ⟨⟨-, hfits⟩, rfl⟩, -, hle⟩
      exact ⟨le_trans (by simpa using hnonneg) hle, hfits⟩
    · rintro ⟨hle, hfits⟩
      refine ⟨_, ⟨⟨?_, hfits⟩, rfl⟩, hpos, ?_⟩
      · exact le_trans (by decide) (steps_nonneg hle)
      · exact le_trans (lowest_add_le_highest hle hlt) (highest_le hle)
    · rintro coin ⟨-, rfl⟩
      exact ⟨rfl, hpos⟩

end

/-- The largest number is drawn. -/
def lastDraw (n : Int) : Except RandomPricingErr Int := .ok (n - 1)

theorem lastDraw_lt (n : Int) (h : 0 < n) : ∃ val, lastDraw n = .ok val ∧ 0 ≤ val ∧ val < n :=
  ⟨n - 1, rfl, by omega, by omega⟩

/-- A gibibyte, for which an order offers 60. -/
theorem random_price_in_range :
    ∃ coin, calculatePrice lastDraw ⟨"uakt", legacyNewDec 60⟩ (ScalePricing.memoryGroup (2 ^ 30)) =
      .ok coin ∧ 0 < coin.amount ∧ coin.amount ≤ legacyNewDec 60 := by
  refine (random_price_in_range_iff lastDraw_lt (by decide) ?_).1.mpr
    ⟨by decide +kernel, by decide +kernel⟩
  intro u hu
  cases List.mem_singleton.mp hu
  rfl

/-- An order offers 10 for 64 gibibytes, and is bid for at 3200 or more.  Another asks for an
exbibyte and offers a lot, and the bid panics. -/
theorem random_price_above_order :
    calculatePrice lastDraw ⟨"uakt", legacyNewDec 10⟩ (ScalePricing.memoryGroup (2 ^ 36)) =
        .ok ⟨"uakt", legacyNewDec 3200⟩ ∧
      calculatePrice lastDraw ⟨"uakt", legacyNewDec (10 ^ 18)⟩
          (ScalePricing.memoryGroup (2 ^ 60)) = .error .int64OutOfBound := by
  decide +kernel

end RandomRangePricing

end AkashProvider
