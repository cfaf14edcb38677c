import Mathlib

/-!
# The ignore list of an operator

A list above its limit is pruned in two rounds: the entries that are too old go first, then
others, in the order in which the map is iterated, until the limit is met.  `Prune` keeps what it
promises as long as the limit is not negative as an `int` (`prune_keeps_iff`).
-/

namespace AkashProvider.Operator

structure IgnoreListEntry where
  failureCount : UInt64
  failedAt : Int
  lastError : Option String
  extra : Finset String
deriving DecidableEq

structure IgnoreListConfig where
  failureLimit : UInt64
  entryLimit : UInt64
  ageLimit : Int
deriving DecidableEq

/-- The map of the list: its keys, and the entry of each of them.  The others have the zero
entry. -/
structure IgnoreList (κ : Type) where
  keys : Finset κ
  entries : κ → IgnoreListEntry

namespace IgnoreList

variable {κ : Type} [DecidableEq κ]

def addError (il : IgnoreList κ) (now : Int) (k : κ) (failure : String) (extra : List String) :
    IgnoreList κ :=
  let entry := il.entries k
  let entry := { entry with
    failureCount := entry.failureCount + 1
    failedAt := now
    lastError := some failure
    extra := entry.extra ∪ extra.toFinset }
  ⟨insert k il.keys, Function.update il.entries k entry⟩

def isFlagged (cfg : IgnoreListConfig) (il : IgnoreList κ) (k : κ) : Bool :=
  k ∈ il.keys && cfg.failureLimit ≤ (il.entries k).failureCount

/-- A list, and for each removal the size that it was made at. -/
abbrev Pruning (κ : Type) := IgnoreList κ × List (κ × Nat)

def delete (s : Pruning κ) (k : κ) : Pruning κ :=
  (⟨s.1.keys.erase k, Function.update s.1.entries k ⟨0, 0, none, ∅⟩⟩,
    s.2 ++ [(k, s.1.keys.card)])

/-- The round for entries of any age, which stops at the limit. -/
def excess (size limit : Int) : List κ → List κ → List κ
  | [], toDelete => toDelete
  | k :: ks, toDelete =>
    if size - toDelete.length ≤ limit then toDelete else excess size limit ks (toDelete ++ [k])

/-- The entry was older than the limit when the iteration came to it. -/
def old (cfg : IgnoreListConfig) (clock : κ → Int) (il : IgnoreList κ) (k : κ) : Bool :=
  clock k - (il.entries k).failedAt > cfg.ageLimit

/-- The two iterations go over the map in the orders given. -/
def prune (cfg : IgnoreListConfig) (clock : κ → Int) (order order' : List κ) (il : IgnoreList κ) :
    Pruning κ × Bool :=
  let limit := cfg.entryLimit.toInt64.toInt
  if limit < il.keys.card then
    let toDelete := order.filter (il.old cfg clock)
    let s := toDelete.foldl delete (il, [])
    let toDelete' := excess s.1.keys.card limit order' []
    (toDelete'.foldl delete s, toDelete ≠ [] ∨ toDelete' ≠ [])
  else ((il, []), false)

/-- An order in which a map with these keys can be iterated. -/
def Iterates (order : List κ) (keys : Finset κ) : Prop := order.Nodup ∧ order.toFinset = keys

/-- What pruning promises. -/
structure PruneKeeps (cfg : IgnoreListConfig) (clock : κ → Int) (il : IgnoreList κ)
    (s : Pruning κ) (deleted : Bool) : Prop where
  bound : s.1.keys.card ≤ cfg.entryLimit.toNat
  within : il.keys.card ≤ cfg.entryLimit.toNat → s.1 = il
  removed : ∀ k ∈ il.keys, k ∉ s.1.keys →
    il.old cfg clock k = true ∨ ∃ size, (k, size) ∈ s.2 ∧ cfg.entryLimit.toNat < size
  exact : (∃ k ∈ il.keys, k ∉ s.1.keys ∧ il.old cfg clock k = false) →
    s.1.keys.card = cfg.entryLimit.toNat
  reports : deleted = true ↔ ∃ k ∈ il.keys, k ∉ s.1.keys

omit [DecidableEq κ] in
theorem excess_eq (size limit : Int) : ∀ ks toDelete : List κ,
    excess size limit ks toDelete = toDelete ++ ks.take (size - limit - toDelete.length).toNat
  | [], toDelete => by simp [excess]
  | k :: ks, toDelete => by
    unfold excess
    split
    next h => simp [Int.toNat_of_nonpos (show size - limit - toDelete.length ≤ 0 by omega)]
    next h =>
      obtain ⟨n, hn⟩ : ∃ n, (size - limit - toDelete.length).toNat = n + 1 :=
        Nat.exists_eq_add_one.mpr (by omega)
      have hrest : (size - limit - (toDelete ++ [k]).length).toNat = n := by
        simp only [List.length_append, List.length_singleton]
        omega
      rw [excess_eq size limit ks, hrest, hn, List.take_succ_cons, List.append_assoc]
      rfl

@[simp]
theorem keys_foldl_delete : ∀ (ks : List κ) (s : Pruning κ),
    (ks.foldl delete s).1.keys = s.1.keys \ ks.toFinset
  | [], s => by simp
  | k :: ks, s => by
    rw [List.foldl_cons, keys_foldl_delete ks]
    ext
    simp [delete]
    tauto

theorem mem_foldl_delete : ∀ (ks : List κ) (s : Pruning κ) (x : κ × Nat), x ∈ s.2 →
    x ∈ (ks.foldl delete s).2
  | [], _, _, h => h
  | _ :: ks, _, x, h => mem_foldl_delete ks _ x (List.mem_append_left _ h)

/-- Each removal is made while the list is larger than it is after all of them. -/
theorem size_foldl_delete : ∀ (ks : List κ) (s : Pruning κ), ∀ k ∈ ks, k ∈ s.1.keys →
    ∃ size, (k, size) ∈ (ks.foldl delete s).2 ∧ s.1.keys.card < size + ks.length
  | k' :: ks, s, k, hk, hmem => by
    by_cases heq : k = k'
    · subst heq
      refine ⟨s.1.keys.card, mem_foldl_delete ks _ _ (List.mem_append_right _ ?_), by simp⟩
      exact List.mem_singleton_self _
    · have hin := List.mem_of_ne_of_mem heq hk
      obtain ⟨size, hsize, hlt⟩ := size_foldl_delete ks (delete s k') k hin
        (Finset.mem_erase.mpr ⟨heq, hmem⟩)
      have herase := Finset.pred_card_le_card_erase (s := s.1.keys) (a := k')
      simp only [delete] at hlt
      exact ⟨size, hsize, by rw [List.length_cons]; omega⟩

theorem card_sdiff_take {order : List κ} {keys : Finset κ} (h : Iterates order keys) (n : Nat) :
    (keys \ (order.take n).toFinset).card = keys.card - n := by
  obtain ⟨hnodup, rfl⟩ := h
  have hsub : (order.take n).toFinset ⊆ order.toFinset := by
    intro k hk
    exact List.mem_toFinset.mpr (List.mem_of_mem_take (List.mem_toFinset.mp hk))
  rw [Finset.card_sdiff_of_subset hsub, List.toFinset_card_of_nodup hnodup,
    List.toFinset_card_of_nodup (hnodup.sublist (List.take_sublist n order)), List.length_take]
  omega

theorem toInt_entryLimit (n : UInt64) :
    n.toInt64.toInt = if n.toNat < 2 ^ 63 then (n.toNat : Int) else n.toNat - 2 ^ 64 := by
  have hcond := BitVec.toInt_eq_toNat_cond n.toBitVec
  rw [UInt64.toNat_toBitVec] at hcond
  rw [show n.toInt64.toInt = n.toBitVec.toInt from rfl, hcond]
  split <;> split <;> omega

section

variable {cfg : IgnoreListConfig} {clock : κ → Int} {il : IgnoreList κ} {order order' : List κ}

/-- The entries that are left by the first round. -/
def young (cfg : IgnoreListConfig) (clock : κ → Int) (il : IgnoreList κ) : Finset κ :=
  il.keys.filter fun k => il.old cfg clock k = false

theorem keys_first_round (h : Iterates order il.keys) :
    ((order.filter (il.old cfg clock)).foldl delete (il, [])).1.keys = il.young cfg clock := by
  obtain ⟨-, hkeys⟩ := h
  ext k
  simp [young, ← hkeys]
  grind

theorem PruneKeeps.of_above (horder : Iterates order il.keys)
    (horder' : Iterates order' (il.young cfg clock)) (hlimit : cfg.entryLimit.toNat < 2 ^ 63)
    (habove : cfg.entryLimit.toNat < il.keys.card) :
    PruneKeeps cfg clock il (il.prune cfg clock order order').1
      (il.prune cfg clock order order').2 := by
  have hint : cfg.entryLimit.toInt64.toInt = cfg.entryLimit.toNat := by
    rw [toInt_entryLimit, if_pos hlimit]
  rw [prune, hint, if_pos (by omega)]
  simp only [keys_first_round horder, excess_eq, List.nil_append]
  generalize hn : ((il.young cfg clock).card - (cfg.entryLimit.toNat : Int) -
    ([] : List κ).length).toNat = n
  generalize hs : (order.filter (il.old cfg clock)).foldl delete (il, []) = s
  have hfirst : s.1.keys = il.young cfg clock := hs ▸ keys_first_round horder
  have hcard := card_sdiff_take horder' n
  rw [← hfirst, ← keys_foldl_delete] at hcard
  rw [List.length_nil, ← hfirst] at hn
  have hbound : ((order'.take n).foldl delete s).1.keys.card ≤ cfg.entryLimit.toNat := by
    omega
  have hyoung : ∀ k ∈ il.keys, k ∉ ((order'.take n).foldl delete s).1.keys →
      il.old cfg clock k = false → k ∈ order'.take n := by
    intro k hk hgone hage
    rw [keys_foldl_delete, hfirst] at hgone
    simpa [young, hk, hage] using hgone
  constructor
  · exact hbound
  · omega
  · intro k hk hgone
    cases hage : il.old cfg clock k with
    | true => exact .inl rfl
    | false =>
      have hmem : k ∈ s.1.keys := by simp [hfirst, young, hk, hage]
      obtain ⟨size, hsize, hlt⟩ := size_foldl_delete _ s k (hyoung k hk hgone hage) hmem
      have hpos := List.length_pos_of_mem (hyoung k hk hgone hage)
      rw [List.length_take] at hlt hpos
      exact .inr ⟨size, hsize, by omega⟩
  · rintro ⟨k, hk, hgone, hage⟩
    have hpos := List.length_pos_of_mem (hyoung k hk hgone hage)
    rw [List.length_take] at hpos
    omega
  · refine iff_of_true ?_ (Finset.exists_mem_notMem_of_card_lt_card (by omega))
    by_contra hnone
    simp only [ne_eq, decide_eq_true_eq, not_or, not_not] at hnone
    rw [hnone.1] at hs
    rw [hnone.2, ← hs] at hbound
    exact absurd hbound (by simpa using habove)

/-- Pruning keeps what it promises exactly if the limit is not negative as an `int`, or there is
nothing in the list.  The size of a map is an `int`. -/
theorem prune_keeps_iff (hsize : il.keys.card < 2 ^ 63) (horder : Iterates order il.keys)
    (horder' : Iterates order' (il.young cfg clock)) :
    PruneKeeps cfg clock il (il.prune cfg clock order order').1
        (il.prune cfg clock order order').2 ↔
      cfg.entryLimit.toNat < 2 ^ 63 ∨ il.keys = ∅ := by
  by_cases hlimit : cfg.entryLimit.toNat < 2 ^ 63
  · refine iff_of_true ?_ (.inl hlimit)
    by_cases habove : cfg.entryLimit.toNat < il.keys.card
    · exact .of_above horder horder' hlimit habove
    · rw [prune, toInt_entryLimit, if_pos hlimit, if_neg (by omega)]
      constructor <;> simp_all
  · have hneg : cfg.entryLimit.toInt64.toInt < 0 := by
      have := cfg.entryLimit.toNat_lt
      rw [toInt_entryLimit, if_neg hlimit]
      omega
    rw [or_iff_right hlimit]
    constructor
    · intro h
      have hsame := h.within (by omega)
      rw [← hsame, ← Finset.card_eq_zero]
      rw [prune, if_pos (by omega)]
      simp only [keys_first_round horder, excess_eq, List.nil_append, keys_foldl_delete,
        card_sdiff_take horder', List.length_nil]
      omega
    · intro hnil
      have hyoung : il.young cfg clock = ∅ := by simp [young, hnil]
      rw [hnil] at horder
      rw [hyoung] at horder'
      obtain rfl : order = [] := List.toFinset_eq_empty_iff _ |>.mp horder.2
      obtain rfl : order' = [] := List.toFinset_eq_empty_iff _ |>.mp horder'.2
      rw [prune, hnil, if_pos (by simpa using hneg)]
      constructor <;> simp_all [excess]

end

/-- A list with one entry. -/
def oneFailure : IgnoreList Nat :=
  addError ⟨∅, fun _ => ⟨0, 0, none, ∅⟩⟩ 10 7 "x" []

theorem prune_keeps_old_entry :
    let cfg : IgnoreListConfig := ⟨1, 0, 5⟩
    let pruned := oneFailure.prune cfg (fun _ => 20) [7] []
    pruned.1.1.keys = ∅ ∧ PruneKeeps cfg (fun _ => 20) oneFailure pruned.1 pruned.2 :=
  ⟨by decide +kernel, (prune_keeps_iff (by decide) ⟨by decide, by decide⟩
    ⟨by decide, by decide +kernel⟩).mpr (.inl (by decide))⟩

/-- A limit that is negative as an `int` empties a list that is within it. -/
theorem negative_limit_empties :
    let cfg : IgnoreListConfig := ⟨1, 2 ^ 63, 3600⟩
    let il := oneFailure
    il.keys.card ≤ cfg.entryLimit.toNat ∧ il.isFlagged cfg 7 = true ∧
      (il.prune cfg (fun _ => 20) [7] [7]).1.1.keys = ∅ ∧
      (il.prune cfg (fun _ => 20) [7] [7]).2 = true := by
  decide +kernel

end IgnoreList

end AkashProvider.Operator
