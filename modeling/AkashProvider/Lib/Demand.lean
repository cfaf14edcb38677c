import Mathlib.Algebra.Order.BigOperators.Group.List
import Mathlib.Algebra.Order.Monoid.Defs
import Mathlib.Data.List.Forall2

/-!
# Demands that are met together

Each item of a list demands some amount, one of several if there is a choice.  A
level meets the demands of a list if one amount can be chosen for each item such
that their sum is below the level.
-/

universe u v

section Meets

variable {α : Type u} {M : Type v} [AddCommMonoid M] [PartialOrder M]
  {Demands : α → M → Prop} {xs ys : List α} {x : α} {b c : M}

/-- Amounts can be chosen for all items with a sum below `b`. -/
def Meets (Demands : α → M → Prop) (xs : List α) (b : M) : Prop :=
  ∃ ms, List.Forall₂ Demands xs ms ∧ ms.sum ≤ b

namespace Meets

theorem nil (hb : 0 ≤ b) : Meets Demands [] b := ⟨[], .nil, hb⟩

theorem mono (h : Meets Demands xs b) (hbc : b ≤ c) : Meets Demands xs c := by
  obtain ⟨ms, hms, hsum⟩ := h
  exact ⟨ms, hms, hsum.trans hbc⟩

theorem singleton {m : M} (h : Demands x m) : Meets Demands [x] m := ⟨[m], .cons h .nil, by simp⟩

variable [IsOrderedAddMonoid M]

theorem cons_iff :
    Meets Demands (x :: xs) b ↔ ∃ m c, Demands x m ∧ Meets Demands xs c ∧ m + c ≤ b := by
  constructor
  · rintro ⟨_, hms, hsum⟩
    cases hms with
    | @cons _ m _ ms hm hms => exact ⟨m, ms.sum, hm, ⟨ms, hms, le_refl _⟩, hsum⟩
  · rintro ⟨m, c, hm, ⟨ms, hms, hsum⟩, hle⟩
    refine ⟨m :: ms, .cons hm hms, ?_⟩
    exact (add_le_add_right hsum m).trans hle

theorem append (hxs : Meets Demands xs b) (hys : Meets Demands ys c) :
    Meets Demands (xs ++ ys) (b + c) := by
  obtain ⟨ms, hms, hsum⟩ := hxs
  obtain ⟨ns, hns, hsum'⟩ := hys
  refine ⟨ms ++ ns, List.rel_append hms hns, ?_⟩
  rw [List.sum_append]
  exact add_le_add hsum hsum'

theorem sublist (hpos : ∀ x m, Demands x m → 0 ≤ m) (h : Meets Demands xs b)
    (hsub : ys.Sublist xs) : Meets Demands ys b := by
  induction hsub generalizing b with
  | slnil => exact h
  | cons x _ ih =>
    obtain ⟨m, c, hm, hxs, hle⟩ := cons_iff.mp h
    exact ih (hxs.mono ((le_add_of_nonneg_left (hpos x m hm)).trans hle))
  | cons_cons x _ ih => grind [cons_iff]

theorem congr {R : α → α → Prop} (hR : ∀ x y m, R x y → Demands x m → Demands y m)
    (h : Meets Demands xs b) (hxy : List.Forall₂ R xs ys) : Meets Demands ys b := by
  induction hxy generalizing b with
  | nil => exact h
  | cons hr _ ih =>
    obtain ⟨m, c, hm, hxs, hle⟩ := cons_iff.mp h
    exact cons_iff.mpr ⟨m, c, hR _ _ m hr hm, ih hxs, hle⟩

end Meets

end Meets
