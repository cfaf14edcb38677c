import Mathlib.Data.List.Nodup
import Mathlib.Data.List.Perm.Basic

/-!
# Adding to a collection with keys

A collection holds resources, at most one of each key.  A resource whose key is taken is
not added.

One party shares the collection with others.  It wants a resource for each of its
demands, where demands of one class ask for one resource between them.
`onePer_addAll_iff` says when adding what it wants gives it that and nothing else.
-/

universe u v w

namespace Keyed

variable {ρ : Type u} {κ : Type v} [DecidableEq κ] (key : ρ → κ)

def add (store : List ρ) (x : ρ) : List ρ :=
  if key x ∈ store.map key then store else store ++ [x]

def addAll (store xs : List ρ) : List ρ := xs.foldl (add key) store

variable {store : List ρ} {x : ρ}

theorem add_of_mem (h : key x ∈ store.map key) :
    add key store x = store := if_pos h

theorem add_of_not_mem (h : key x ∉ store.map key) :
    add key store x = store ++ [x] := if_neg h

theorem addAll_cons (store : List ρ) (x : ρ) (xs : List ρ) :
    addAll key store (x :: xs) = addAll key (add key store x) xs := rfl

theorem addAll_eq_append (xs : List ρ) : ∀ store : List ρ,
    ∃ fresh, addAll key store xs = store ++ fresh ∧ ∀ x ∈ fresh, x ∈ xs := by
  induction xs with
  | nil => exact fun store => ⟨[], (List.append_nil store).symm, fun _ hx => hx⟩
  | cons x xs ih =>
    intro store
    rw [addAll_cons]
    by_cases htaken : key x ∈ store.map key
    · rw [add_of_mem key htaken]
      obtain ⟨fresh, hfresh, hmem⟩ := ih store
      simp_all
    · rw [add_of_not_mem key htaken]
      obtain ⟨fresh, hfresh, hmem⟩ := ih (store ++ [x])
      grind

variable {key}

theorem mem_addAll_of_mem (h : x ∈ store) (xs : List ρ) :
    x ∈ addAll key store xs := by
  obtain ⟨fresh, hfresh, -⟩ := addAll_eq_append key xs store
  rw [hfresh]
  exact List.mem_append_left fresh h

theorem mem_or_mem_of_mem_addAll {store xs : List ρ} (h : x ∈ addAll key store xs) :
    x ∈ store ∨ x ∈ xs := by
  obtain ⟨fresh, hfresh, hmem⟩ := addAll_eq_append key xs store
  grind

theorem nodup_add (h : (store.map key).Nodup) (x : ρ) :
    ((add key store x).map key).Nodup := by
  by_cases htaken : key x ∈ store.map key
  · rw [add_of_mem key htaken]
    exact h
  · grind [add_of_not_mem]

theorem nodup_addAll (xs : List ρ) : ∀ {store : List ρ}, (store.map key).Nodup →
    ((addAll key store xs).map key).Nodup := by
  induction xs with
  | nil => exact fun h => h
  | cons x xs ih => exact fun h => ih (nodup_add h x)

theorem exists_mem_addAll {xs : List ρ} : ∀ {store : List ρ} {x : ρ}, x ∈ xs →
    ∃ y ∈ addAll key store xs, key y = key x := by
  induction xs with
  | nil => exact fun hx => absurd hx List.not_mem_nil
  | cons z xs ih =>
    intro store x hx
    rcases List.mem_cons.mp hx with rfl | hx
    · grind [mem_addAll_of_mem, addAll_cons, add_of_not_mem]
    · exact ih hx

/-! ## One for each class -/

/-- One demand of each class that is wanted. -/
@[grind cases]
structure OnePer {ν : Type w} {τ : Type*} (cls : ν → τ) (wanted chosen : List ν) : Prop where
  mem : ∀ v ∈ chosen, v ∈ wanted
  nodup : (chosen.map cls).Nodup
  covers : ∀ v ∈ wanted, ∃ c ∈ chosen, cls c = cls v

section

variable {ν : Type w} {τ : Type*} {cls : ν → τ} {make : ν → ρ} {mine : ρ → Prop}
  [DecidablePred mine] {store : List ρ} {wanted : List ν}

theorem exists_map_eq {l : List ρ} : (∀ x ∈ l, ∃ v ∈ wanted, make v = x) →
    ∃ chosen : List ν, (∀ v ∈ chosen, v ∈ wanted) ∧ chosen.map make = l := by
  induction l with
  | nil => exact fun _ => ⟨[], fun _ hv => absurd hv List.not_mem_nil, rfl⟩
  | cons x l ih =>
    intro h
    obtain ⟨⟨v, hv, rfl⟩, hrest⟩ := List.forall_mem_cons.mp h
    obtain ⟨chosen, hmem, rfl⟩ := ih hrest
    exact ⟨v :: chosen, List.forall_mem_cons.mpr ⟨hv, hmem⟩, rfl⟩

theorem onePer_addAll (hkey : ∀ v v', cls v = cls v' → key (make v) = key (make v'))
    (hmine : ∀ v, mine (make v)) (hnodup : (store.map key).Nodup)
    (hold : ∀ x ∈ store, mine x → ∃ v ∈ wanted, make v = x)
    (hfree : ∀ v ∈ wanted, ∀ x ∈ store, key x = key (make v) → mine x)
    (hcls : ∀ v ∈ wanted, ∀ v' ∈ wanted, key (make v) = key (make v') → cls v = cls v') :
    ∃ chosen, OnePer cls wanted chosen ∧
      chosen.map make = (addAll key store (wanted.map make)).filter (fun x => mine x) := by
  have hwanted : ∀ x ∈ (addAll key store (wanted.map make)).filter (fun x => mine x),
      ∃ v ∈ wanted, make v = x := by
    intro x hx
    obtain ⟨hx, hxm⟩ := List.mem_filter.mp hx
    rcases mem_or_mem_of_mem_addAll hx with hx | hx
    · exact hold x hx (of_decide_eq_true hxm)
    · exact List.mem_map.mp hx
  obtain ⟨chosen, hmem, hchosen⟩ := exists_map_eq hwanted
  refine ⟨chosen, ⟨hmem, ?_, ?_⟩, hchosen⟩
  · -- they have different keys, so they are of different classes
    have hkeys : ((chosen.map make).map key).Nodup := by grind [nodup_addAll]
    grind
  · intro v hv
    obtain ⟨x, hx, hsame⟩ : ∃ x ∈ addAll key store (wanted.map make), key x = key (make v) :=
      exists_mem_addAll (List.mem_map_of_mem hv)
    have hxm : mine x := by
      rcases mem_or_mem_of_mem_addAll hx with hx | hx
      · exact hfree v hv x hx hsame
      · grind
    have hin : x ∈ chosen.map make := by simp_all
    grind

/-- The party has what it wants and nothing else, exactly if all that it had is wanted, no other has
a key of it, and its classes share no keys. -/
theorem onePer_addAll_iff (hkey : ∀ v v', cls v = cls v' → key (make v) = key (make v'))
    (hmine : ∀ v, mine (make v)) (hnodup : (store.map key).Nodup) :
    (∃ chosen, OnePer cls wanted chosen ∧
        ((addAll key store (wanted.map make)).filter fun x => mine x).Perm (chosen.map make)) ↔
      (∀ x ∈ store, mine x → ∃ v ∈ wanted, make v = x) ∧
      (∀ v ∈ wanted, ∀ x ∈ store, key x = key (make v) → mine x) ∧
      (∀ v ∈ wanted, ∀ v' ∈ wanted, key (make v) = key (make v') → cls v = cls v') := by
  constructor
  · rintro ⟨chosen, hone, hperm⟩
    have hall : ((addAll key store (wanted.map make)).map key).Nodup := nodup_addAll _ hnodup
    have hmem : ∀ x, x ∈ chosen.map make ↔ x ∈ addAll key store (wanted.map make) ∧ mine x := by
      grind
    refine ⟨?_, ?_, ?_⟩
    · intro x hx hxm
      obtain ⟨v, hv, rfl⟩ := List.mem_map.mp ((hmem x).mpr ⟨mem_addAll_of_mem hx _, hxm⟩)
      exact ⟨v, hone.mem v hv, rfl⟩
    · intro v hv x hx hsame
      grind [List.mem_map_of_mem, List.inj_on_of_nodup_map, mem_addAll_of_mem]
    · intro v hv v' hv' hsame
      -- two chosen demands with one key are one
      have hkeys : ((chosen.map make).map key).Nodup :=
        ((hperm.map key).nodup_iff).mp (hall.sublist (List.filter_sublist.map key))
      grind [List.map_map, List.inj_on_of_nodup_map]
  · rintro ⟨hold, hfree, hcls⟩
    obtain ⟨chosen, hone, heq⟩ := onePer_addAll hkey hmine hnodup hold hfree hcls
    exact ⟨chosen, hone, heq ▸ List.Perm.refl _⟩

end

end Keyed
