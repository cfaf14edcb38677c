import Mathlib.Logic.Relation
import Mathlib.Data.List.Induction

/-!
# Runs of systems that take events

A system takes an event in a state, or refuses it.  A run is a sequence of events
it took, each one allowed by a condition on the state before and the event.  What
one allowed step preserves, a run preserves (`Runs.invariant`).  Where a result is
about the events themselves, the run is a fold over their list (`foldlM_invariant`).
-/

universe u v

/-- The system takes some allowed event. -/
def Moves {σ : Type u} {ε : Type v} (step : σ → ε → Option σ) (ok : σ → ε → Prop)
    (s s' : σ) : Prop :=
  ∃ e, ok s e ∧ step s e = some s'

/-- `s'` is reached from `s` by allowed events. -/
def Runs {σ : Type u} {ε : Type v} (step : σ → ε → Option σ) (ok : σ → ε → Prop) :
    σ → σ → Prop :=
  Relation.ReflTransGen (Moves step ok)

namespace Runs

variable {σ : Type u} {ε : Type v} {step : σ → ε → Option σ} {ok : σ → ε → Prop}

theorem refl (s : σ) : Runs step ok s s := Relation.ReflTransGen.refl

theorem next {s s' s'' : σ} (h : Runs step ok s s') (e : ε) (hok : ok s' e)
    (hstep : step s' e = some s'') : Runs step ok s s'' :=
  Relation.ReflTransGen.tail h ⟨e, hok, hstep⟩

theorem mono {ok' : σ → ε → Prop} (hok : ∀ s e, ok s e → ok' s e) {s s' : σ}
    (h : Runs step ok s s') : Runs step ok' s s' := by
  induction h with
  | refl => exact refl s
  | tail _ hmove ih =>
    obtain ⟨e, he, hstep⟩ := hmove
    exact ih.next e (hok _ e he) hstep

theorem invariant {I : σ → Prop}
    (hstep : ∀ s e s', ok s e → step s e = some s' → I s → I s') {s s' : σ}
    (h : Runs step ok s s') (hI : I s) : I s' := by
  induction h with
  | refl => exact hI
  | tail _ hmove ih =>
    obtain ⟨e, hok, htake⟩ := hmove
    exact hstep _ e _ hok htake ih

theorem of_foldlM : ∀ (es : List ε) (s s' : σ), es.foldlM step s = some s' →
    Runs step (fun _ _ => True) s s' := by
  intro es
  induction es with
  | nil => grind [refl]
  | cons e es ih =>
    intro s s' h
    obtain ⟨t, ht, hrest⟩ := Option.bind_eq_some_iff.mp h
    exact Relation.ReflTransGen.head ⟨e, trivial, ht⟩ (ih t s' hrest)

theorem of_guarded [∀ s e, Decidable (ok s e)] : ∀ (es : List ε) (s s' : σ),
    es.foldlM (fun s e => if ok s e then step s e else none) s = some s' → Runs step ok s s' := by
  intro es
  induction es with
  | nil => grind [refl]
  | cons e es ih =>
    intro s s' h
    rw [List.foldlM_cons] at h
    obtain ⟨t, ht, hrest⟩ := Option.bind_eq_some_iff.mp h
    split at ht
    · next hok => exact Relation.ReflTransGen.head ⟨e, hok, ht⟩ (ih t s' hrest)
    · cases ht

end Runs

/-- A relation between the events so far and the state that each step extends. -/
theorem foldlM_invariant {σ : Type u} {ε : Type v} {step : σ → ε → Option σ} {start : σ}
    {I : List ε → σ → Prop} (hstart : I [] start)
    (hstep : ∀ es s e s', I es s → step s e = some s' → I (es ++ [e]) s') (es : List ε) :
    ∀ {s : σ}, es.foldlM step start = some s → I es s := by
  induction es using List.reverseRecOn with
  | nil =>
    intro s h
    injection h with h
    exact h ▸ hstart
  | append_singleton es e ih =>
    intro s h
    rw [List.foldlM_append] at h
    obtain ⟨t, ht, hlast⟩ := Option.bind_eq_some_iff.mp h
    rw [List.foldlM_cons] at hlast
    obtain ⟨t', htake, ⟨⟩⟩ := Option.bind_eq_some_iff.mp hlast
    exact hstep es t e _ (ih ht) htake
