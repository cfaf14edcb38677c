import Mathlib.Data.List.Forall2

/-!
# Inversion for `Except`

A computation that ended in `ok` had every part end in `ok`.
-/

universe u v w

namespace Except

variable {ε : Type u} {α : Type v} {β : Type w}

theorem exists_of_map_eq_ok {f : α → β} {x : Except ε α} {b : β} (h : x.map f = .ok b) :
    ∃ a, x = .ok a ∧ f a = b := by
  cases x with
  | error e => cases h
  | ok a =>
    injection h with h
    exact ⟨a, rfl, h⟩

theorem exists_of_bind_eq_ok {x : Except ε α} {f : α → Except ε β} {b : β}
    (h : x.bind f = .ok b) : ∃ a, x = .ok a ∧ f a = .ok b := by
  cases x with
  | error e => cases h
  | ok a => exact ⟨a, rfl, h⟩

theorem bind_eq_ok_iff {α β : Type v} {x : Except ε α} {f : α → Except ε β} {b : β} :
    (x >>= f) = .ok b ↔ ∃ a, x = .ok a ∧ f a = .ok b := by
  constructor
  · exact exists_of_bind_eq_ok
  · rintro ⟨a, rfl, h⟩
    exact h

theorem mapError_eq_ok_iff {ε' : Type w} {x : Except ε α} {f : ε → ε'} {a : α} :
    x.mapError f = .ok a ↔ x = .ok a := by
  cases x <;> simp [Except.mapError]

theorem ite_error_eq_ok_iff {p : Prop} [Decidable p] {a b : α} {e : ε} :
    (if p then .ok a else .error e : Except ε α) = .ok b ↔ p ∧ a = b := by
  by_cases hp : p <;> simp [hp]

theorem ite_ok_eq_ok_iff {p : Prop} [Decidable p] {a b : α} {e : ε} :
    (if p then .error e else .ok a : Except ε α) = .ok b ↔ ¬ p ∧ a = b := by
  by_cases hp : p <;> simp [hp]

theorem eq_ok_of_toOption_eq_some {x : Except ε α} {a : α} (h : x.toOption = some a) :
    x = .ok a := by
  cases x with
  | error e => cases h
  | ok b =>
    injection h with h
    rw [h]

theorem mapM_eq_ok_iff {ε : Type u} {α : Type v} {β : Type u} {f : α → Except ε β} {l : List α} :
    ∀ {l' : List β}, l.mapM f = .ok l' ↔ List.Forall₂ (fun a b => f a = .ok b) l l' := by
  induction l with
  | nil =>
    intro l'
    rw [List.mapM_nil, List.forall₂_nil_left_iff]
    exact ⟨fun h => (Except.ok.inj h).symm, fun h => h ▸ rfl⟩
  | cons a l ih =>
    intro l'
    rw [List.mapM_cons, List.forall₂_cons_left_iff]
    constructor
    · intro h
      obtain ⟨b, hb, h⟩ := exists_of_bind_eq_ok h
      obtain ⟨bs, hbs, h⟩ := exists_of_bind_eq_ok h
      exact ⟨b, bs, hb, ih.mp hbs, (Except.ok.inj h).symm⟩
    · rintro ⟨b, bs, hb, hbs, rfl⟩
      rw [hb, ih.mpr hbs]
      rfl

end Except
