import AkashProvider.Lib.Run

/-!
# What a system can still get to

`Reaches step s P` says that some events lead from `s` to a state with `P`, and `Stays step s P`
that none lead out of `P`.  A state is stuck in `P` if `P` holds and stays.
-/

universe u v

variable {σ : Type u} {ε : Type v} {step : σ → ε → Option σ} {s s' : σ} {P Q : σ → Prop}

def Reaches (step : σ → ε → Option σ) (s : σ) (P : σ → Prop) : Prop :=
  ∃ s', Runs step (fun _ _ => True) s s' ∧ P s'

def Stays (step : σ → ε → Option σ) (s : σ) (P : σ → Prop) : Prop :=
  ∀ s', Runs step (fun _ _ => True) s s' → P s'

namespace Reaches

theorem here (h : P s) : Reaches step s P := ⟨s, Runs.refl s, h⟩

theorem next (e : ε) (hstep : step s e = some s') (h : Reaches step s' P) : Reaches step s P := by
  obtain ⟨t, hrun, ht⟩ := h
  exact ⟨t, Relation.ReflTransGen.head ⟨e, trivial, hstep⟩ hrun, ht⟩

theorem trans (h : Reaches step s P) (hnext : ∀ s', P s' → Reaches step s' Q) :
    Reaches step s Q := by
  obtain ⟨t, hrun, ht⟩ := h
  obtain ⟨t', hrun', ht'⟩ := hnext t ht
  exact ⟨t', Relation.ReflTransGen.trans hrun hrun', ht'⟩

theorem and_invariant {I : σ → Prop} (hstep : ∀ s e s', step s e = some s' → I s → I s')
    (h : Reaches step s P) (hI : I s) : Reaches step s fun s' => P s' ∧ I s' := by
  obtain ⟨t, hrun, ht⟩ := h
  exact ⟨t, hrun, ht, hrun.invariant (fun s e s' _ htake hI => hstep s e s' htake hI) hI⟩

end Reaches

namespace Stays

theorem of_step (hstep : ∀ s e s', step s e = some s' → P s → P s') (h : P s) : Stays step s P :=
  fun _ hrun => hrun.invariant (fun s e s' _ htake hP => hstep s e s' htake hP) h

end Stays
