import Mathlib.Logic.Basic

/-!
# Computations that may end early

A computation works on a state.  It ends with a value, or early with an error, and in both
cases leaves a state behind.

`x.Meets s Q` is its specification: a run of `x` from `s` that ends with a value ends in `Q`.
There is one rule for each way in which computations are put together.
-/

universe u

def Prog (σ ε α : Type u) : Type u := σ → Except ε α × σ

namespace Prog

variable {σ ε α β : Type u}

def throw (e : ε) : Prog σ ε α := fun s => (.error e, s)

def modify (f : σ → σ) : Prog σ ε PUnit := fun s => (.ok ⟨⟩, f s)

def ofExcept (x : Except ε α) : Prog σ ε α := fun s => (x, s)

def bind (x : Prog σ ε α) (f : α → Prog σ ε β) : Prog σ ε β := fun s =>
  match x s with
  | (.ok a, s') => f a s'
  | (.error e, s') => (.error e, s')

instance : Monad (Prog σ ε) where
  pure a := fun s => (.ok a, s)
  bind := bind

def when (c : Bool) (x : Prog σ ε PUnit) : Prog σ ε PUnit := if c then x else pure ⟨⟩

/-- The rounds of a loop, until one ends early. -/
def forEach (f : α → Prog σ ε PUnit) : List α → Prog σ ε PUnit
  | [] => pure ⟨⟩
  | a :: l => do
    f a
    forEach f l

/-! ## Specifications -/

def Meets (x : Prog σ ε α) (s : σ) (Q : α → σ → Prop) : Prop :=
  ∀ a s', x s = (.ok a, s') → Q a s'

variable {x : Prog σ ε α} {f : α → Prog σ ε β} {s : σ} {Q Q' : α → σ → Prop}
  {R : β → σ → Prop}

namespace Meets

theorem mono (h : x.Meets s Q) (hQ : ∀ a s', Q a s' → Q' a s') : x.Meets s Q' :=
  fun a s' hx => hQ a s' (h a s' hx)

theorem and (h : x.Meets s Q) (h' : x.Meets s Q') : x.Meets s fun a s' => Q a s' ∧ Q' a s' :=
  fun a s' hx => ⟨h a s' hx, h' a s' hx⟩

theorem pure {a : α} (h : Q a s) : (Pure.pure a : Prog σ ε α).Meets s Q := by
  rintro _ _ ⟨⟩
  exact h

theorem throw {e : ε} : (Prog.throw e : Prog σ ε α).Meets s Q := nofun

theorem modify {g : σ → σ} {Q : PUnit → σ → Prop} (h : Q ⟨⟩ (g s)) :
    (Prog.modify g : Prog σ ε PUnit).Meets s Q := by
  rintro _ _ ⟨⟩
  exact h

theorem bind (hx : x.Meets s Q) (hf : ∀ a s', Q a s' → (f a).Meets s' R) :
    (x >>= f).Meets s R := by
  intro b s'' hrun
  change Prog.bind x f s = _ at hrun
  unfold Prog.bind at hrun
  split at hrun
  · next a s' ha => exact hf a s' (hx a s' ha) b s'' hrun
  · cases hrun

theorem seq (hx : x.Meets s fun a s' => (f a).Meets s' R) : (x >>= f).Meets s R :=
  hx.bind fun _ _ h => h

theorem ofExcept {r : Except ε α} (hok : ∀ a, r = .ok a → Q a s) :
    (Prog.ofExcept r : Prog σ ε α).Meets s Q := by
  rintro a _ ⟨⟩
  exact hok a rfl

theorem when {c : Bool} {y : Prog σ ε PUnit} {Q : PUnit → σ → Prop}
    (hy : c = true → y.Meets s Q) (hskip : c = false → Q ⟨⟩ s) : (Prog.when c y).Meets s Q := by
  cases c with
  | true => exact hy rfl
  | false => exact pure (hskip rfl)

theorem forEach {g : α → Prog σ ε PUnit} {I : List α → σ → Prop}
    (h : ∀ a l s, I (a :: l) s → (g a).Meets s fun _ => I l) :
    ∀ (l : List α) (s : σ), I l s → (Prog.forEach g l).Meets s fun _ => I []
  | [], _, hs => pure hs
  | a :: l, s, hs => bind (h a l s hs) fun _ s' => forEach h l s'

end Meets

end Prog
