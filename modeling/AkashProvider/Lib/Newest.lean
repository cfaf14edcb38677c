import Mathlib.Order.Basic

/-!
# The newest of a sequence

Items come one after another.  Some of them count, and of those that count the newest is the last
one with the greatest key.  `Newest` says so of the whole sequence.  The rules say what becomes of
it when one more item comes: one that does not count or has a smaller key changes nothing, any
other one is the newest.
-/

universe u v

variable {α : Type u} {κ : Type v} [Preorder κ]

/-- The last item with the greatest key, of those that count. -/
def Newest (key : α → κ) (counts : α → Prop) (l : List α) : Option α → Prop
  | none => ∀ a ∈ l, ¬ counts a
  | some a => ∃ before after, l = before ++ a :: after ∧ counts a ∧
      (∀ b ∈ before, counts b → key b ≤ key a) ∧ ∀ b ∈ after, counts b → key b < key a

namespace Newest

variable {key : α → κ} {counts : α → Prop} {l : List α} {a b : α} {newest : Option α}

theorem nil : Newest key counts [] none := fun _ h => absurd h List.not_mem_nil

theorem older (h : Newest key counts l newest)
    (hb : counts b → ∃ a, newest = some a ∧ key b < key a) :
    Newest key counts (l ++ [b]) newest := by
  cases newest with
  | none => grind [Newest]
  | some a =>
    obtain ⟨before, after, rfl, ha, hbefore, hafter⟩ := h
    refine ⟨before, after ++ [b], by simp, ha, hbefore, fun c hc hcounts => ?_⟩
    rcases List.mem_append.mp hc with hc | hc
    · exact hafter c hc hcounts
    · simp_all

theorem le (h : Newest key counts l (some a)) (hb : b ∈ l) (hcounts : counts b) :
    key b ≤ key a := by
  obtain ⟨before, after, rfl, -, hbefore, hafter⟩ := h
  grind

theorem newer (h : Newest key counts l newest) (hb : counts b)
    (hkey : ∀ a, newest = some a → key a ≤ key b) : Newest key counts (l ++ [b]) (some b) := by
  refine ⟨l, [], rfl, hb, fun c hc hcounts => ?_, fun c hc => absurd hc List.not_mem_nil⟩
  cases newest with
  | none => exact absurd hcounts (h c hc)
  | some a => exact le_trans (h.le hc hcounts) (hkey a rfl)

end Newest
