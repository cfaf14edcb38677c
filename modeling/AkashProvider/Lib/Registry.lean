import Mathlib

/-!
# Names and their holders

A registry says who holds a name, if anybody does.  Names are given to a holder and
taken away in bulk: `assign` and `remove`, each with what a look-up gives after it.
-/

universe u v

variable {α : Type u} {κ : Type v}

/-- `none` is a name that nobody holds. -/
abbrev Registry (α : Type u) (κ : Type v) := α → Option κ

namespace Registry

/-- Give every name of a list to one holder, one after another. -/
def assign [DecidableEq α] (m : Registry α κ) (k : κ) (names : List α) : Registry α κ :=
  names.foldl (fun m a => Function.update m a (some k)) m

def remove (m : Registry α κ) (p : α → Bool) : Registry α κ :=
  fun a => if p a then none else m a

theorem assign_apply [DecidableEq α] (m : Registry α κ) (k : κ) (names : List α) (a : α) :
    m.assign k names a = if a ∈ names then some k else m a := by
  induction names generalizing m with
  | nil => simp [assign]
  | cons b names ih =>
    have hstep : m.assign k (b :: names) = assign (Function.update m b (some k)) k names := rfl
    rw [hstep, ih]
    by_cases hab : a = b
    · subst hab
      simp
    · simp [hab]

theorem remove_apply (m : Registry α κ) (p : α → Bool) (a : α) :
    m.remove p a = if p a then none else m a := rfl

end Registry
