import Mathlib.Data.List.Nodup

/-!
# Maps as lists of pairs

A map is a list of keys and values, and `List.lookup` is the access.  If the keys are distinct,
the pairs are what the accesses give.
-/

universe u v

namespace Assoc

variable {κ : Type u} {α : Type v} [BEq κ] [LawfulBEq κ] {l : List (κ × α)} {k : κ} {a : α}

theorem mem_of_lookup (h : l.lookup k = some a) : (k, a) ∈ l := by grind [List.lookup_eq_some_iff]

theorem lookup_of_mem (hnodup : (l.map Prod.fst).Nodup) (hmem : (k, a) ∈ l) :
    l.lookup k = some a := by
  induction l with
  | nil => cases hmem
  | cons e rest ih => grind

theorem lookup_map {κ : Type u} [BEq κ] {γ : Type*} (key : γ → κ) (f : γ → α) (l : List γ) (k : κ) :
    (l.map fun e => (key e, f e)).lookup k = (l.find? fun e => k == key e).map f := by
  induction l with
  | nil => rfl
  | cons e l ih => grind

end Assoc
