import Mathlib.Algebra.BigOperators.Group.List.Basic
import Mathlib.Data.Set.Insert
import Mathlib.Data.Set.Lattice

/-!
# Ledgers with limits

A *ledger* is a state with accounts to which amounts are posted.  An account is within its limit
if it has room for nothing.  `Draw m T a b` says how an operation that checks limits gets from `a`
to `b`: it posts `m`, leaves the accounts of `T` within their limits, and takes none out of its
limits.  A loop of draws is a draw of the sum (`Draw.of_foldlM`), and goes through if there is
room for the sum (`foldlM_eq_ok_of_room`).
-/

universe u v w

/-- A state `α` to which amounts of `M` are posted, with accounts `κ`. -/
structure Ledger (α : Type u) (M : Type v) (κ : Type w) [AddCommMonoid M] where
  charge : α → M → α
  charge_zero : ∀ a, charge a 0 = a
  charge_add : ∀ a m n, charge (charge a m) n = charge a (m + n)
  /-- The account has room for its part of an amount. -/
  Room : α → κ → M → Prop
  room_charge : ∀ a m k n, Room (charge a m) k n ↔ Room a k (m + n)

namespace Ledger

variable {α : Type u} {M : Type v} {κ : Type w} [AddCommMonoid M] (L : Ledger α M κ)

def Within (a : α) (k : κ) : Prop := L.Room a k 0

theorem within_charge (a : α) (m : M) (k : κ) : L.Within (L.charge a m) k ↔ L.Room a k m := by
  rw [Within, L.room_charge, add_zero]

/-- From `a` to `b` by posting `m`, with the accounts of `T` checked. -/
@[grind cases]
structure Draw (m : M) (T : Set κ) (a b : α) : Prop where
  eq_charge : b = L.charge a m
  within : ∀ k, k ∈ T ∨ L.Within a k → L.Within b k

variable {L}

theorem Draw.refl (a : α) : L.Draw 0 ∅ a a where
  eq_charge := (L.charge_zero a).symm
  within := by
    rintro k (hk | hk)
    · exact absurd hk (Set.notMem_empty k)
    · exact hk

theorem Draw.trans {m n : M} {T U : Set κ} {a b c : α} (h₁ : L.Draw m T a b)
    (h₂ : L.Draw n U b c) : L.Draw (m + n) (T ∪ U) a c where
  eq_charge := by rw [h₂.eq_charge, h₁.eq_charge, L.charge_add]
  within := by
    grind

theorem Draw.of_foldlM {β ε : Type*} {step : α → β → Except ε α} {f : β → M} {T : β → Set κ}
    (hstep : ∀ a x b, step a x = .ok b → L.Draw (f x) (T x) a b) :
    ∀ (l : List β) (a b : α), l.foldlM step a = .ok b →
      L.Draw (l.map f).sum {k | ∃ x ∈ l, k ∈ T x} a b
  | [], a, b, h => by
    injection h with h
    subst h
    simpa using Draw.refl (L := L) a
  | x :: l, a, b, h => by
    rw [List.foldlM_cons] at h
    cases hx : step a x with
    | error e => rw [hx] at h; cases h
    | ok c =>
      rw [hx] at h
      have htail := Draw.of_foldlM hstep l c b h
      have hset : {k | ∃ y ∈ x :: l, k ∈ T y} = T x ∪ {k | ∃ y ∈ l, k ∈ T y} := by
        ext k
        simp
      rw [List.map_cons, List.sum_cons, hset]
      exact (hstep a x c hx).trans htail

theorem Draw.room {m : M} {T : Set κ} {a b : α} (h : L.Draw m T a b) {k : κ} (hk : k ∈ T) :
    L.Room a k m := by
  have hwithin := h.within k (Or.inl hk)
  rw [h.eq_charge, L.within_charge] at hwithin
  exact hwithin

/-- A loop goes through if there is room for the sum of what its steps draw.  `Adm` is what a step
needs besides, and no posting changes it. -/
theorem foldlM_eq_ok_of_room {β ε : Type*} {step : α → β → Except ε α} {f : β → M}
    {T : β → Set κ} {Adm : α → β → Prop}
    (hstep : ∀ a x, Adm a x → (∀ k ∈ T x, L.Room a k (f x)) → step a x = .ok (L.charge a (f x)))
    (hadm : ∀ a m x, Adm a x → Adm (L.charge a m) x)
    (hmono : ∀ a k m x, L.Room a k (m + f x) → L.Room a k m) :
    ∀ (l : List β) (a : α), (∀ x ∈ l, Adm a x) →
      (∀ x ∈ l, ∀ k ∈ T x, L.Room a k (l.map f).sum) →
      l.foldlM step a = .ok (L.charge a (l.map f).sum) := by
  have hmonoSum : ∀ (l : List β) (a : α) (k : κ) (m : M),
      L.Room a k (m + (l.map f).sum) → L.Room a k m := by
    intro l
    induction l with
    | nil =>
      intro a k m h
      simpa using h
    | cons x l ih =>
      intro a k m h
      rw [List.map_cons, List.sum_cons, ← add_assoc] at h
      exact hmono a k m x (ih a k (m + f x) h)
  intro l
  induction l with
  | nil =>
    intro a _ _
    rw [List.map_nil, List.sum_nil, L.charge_zero]
    rfl
  | cons x l ih =>
    intro a hall hroom
    have hx : step a x = .ok (L.charge a (f x)) := by
      grind
    have hrest := ih (L.charge a (f x))
      (fun y hy => hadm a (f x) y (hall y (List.mem_cons_of_mem x hy))) fun y hy k hk => by
        rw [L.room_charge]
        grind
    rw [List.foldlM_cons, hx, List.map_cons, List.sum_cons, ← L.charge_add]
    exact hrest

end Ledger
