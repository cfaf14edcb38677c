import Mathlib.Data.List.Chain

/-!
# Histories

A history is a list of entries, the newest first, so what came before an entry is the rest of
the list after it.  `Always P` says that every entry relates to what came before it as `P` says.
It is proved entry by entry as the history grows (`always_cons`).
-/

universe u

namespace History

variable {ε : Type u} {P : ε → List ε → Prop} {log : List ε}

def Always (P : ε → List ε → Prop) (log : List ε) : Prop :=
  ∀ e past, e :: past <:+ log → P e past

theorem always_nil : Always P [] := by
  intro e past h
  simp_all

theorem always_cons {e : ε} : Always P (e :: log) ↔ P e log ∧ Always P log := by
  grind [List.suffix_refl, List.suffix_cons_iff, Always]

theorem Always.count_le_one [DecidableEq ε] (h : Always P log) {e : ε}
    (honce : ∀ past, P e past → e ∉ past) : log.count e ≤ 1 := by
  induction log with
  | nil => simp
  | cons e' log ih =>
    obtain ⟨he', hlog⟩ := always_cons.mp h
    by_cases heq : e' = e
    · grind
    · grind

theorem Always.isChain_ne {β : Type u} (h : Always P log) (view : ε → Option β)
    (hnew : ∀ e past b, P e past → view e = some b → (past.filterMap view).head? ≠ some b) :
    (log.filterMap view).IsChain (· ≠ ·) := by
  induction log with
  | nil => exact .nil
  | cons e log ih =>
    obtain ⟨he, hlog⟩ := always_cons.mp h
    cases hview : view e with
    | none => simp_all
    | some b =>
      rw [List.filterMap_cons_some hview, List.isChain_cons]
      refine ⟨?_, ih hlog⟩
      intro b' hb' heq
      subst heq
      exact hnew e log _ he hview hb'

end History
