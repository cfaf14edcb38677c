import Mathlib

/-!
# Lists that are related item by item
-/

universe u v w

namespace List.Forall₂

theorem exists_of_mem {α : Type u} {β : Type v} {R : α → β → Prop} {l : List α} {l' : List β}
    (h : Forall₂ R l l') {b : β} (hb : b ∈ l') : ∃ a ∈ l, R a b := by
  induction h with
  | nil => cases hb
  | cons hR _ ih => grind

theorem exists_of_mem_left {α : Type u} {β : Type v} {R : α → β → Prop} {l : List α}
    {l' : List β} (h : Forall₂ R l l') {a : α} (ha : a ∈ l) : ∃ b ∈ l', R a b :=
  h.flip.exists_of_mem ha

theorem comp {α : Type u} {β : Type v} {γ : Type w} {R : α → β → Prop} {Q : β → γ → Prop}
    {P : α → γ → Prop} (hcomp : ∀ a b c, R a b → Q b c → P a c) {l₁ : List α} {l₂ : List β}
    {l₃ : List γ} (h₁ : Forall₂ R l₁ l₂) (h₂ : Forall₂ Q l₂ l₃) : Forall₂ P l₁ l₃ := by
  induction h₁ generalizing l₃ with
  | nil =>
    cases h₂
    exact .nil
  | cons hR _ ih =>
    cases h₂ with
    | cons hQ hrest => exact .cons (hcomp _ _ _ hR hQ) (ih hrest)

theorem of_getElem? {α : Type u} {β : Type v} {R : α → β → Prop} {l : List α} {l' : List β}
    (h : Forall₂ R l l') :
    ∀ {i : Nat} {a : α} {b : β}, l[i]? = some a → l'[i]? = some b → R a b := by
  induction h with
  | nil =>
    intro i a b ha _
    cases ha
  | cons hab _ ih => grind

theorem sum_map_le {α : Type u} {β : Type v} {R : α → β → Prop} {l : List α} {l' : List β}
    {f : α → Nat} {g : β → Nat} (h : Forall₂ R l l') (hle : ∀ a b, R a b → f a ≤ g b) :
    (l.map f).sum ≤ (l'.map g).sum := by
  induction h with
  | nil => exact Nat.le_refl _
  | cons hR _ ih => grind

theorem exists_of_forall {α : Type u} {β : Type v} {R : α → β → Prop} {l : List α}
    (h : ∀ a ∈ l, ∃ b, R a b) : ∃ l' : List β, Forall₂ R l l' := by
  induction l with
  | nil => exact ⟨[], .nil⟩
  | cons a l ih =>
    obtain ⟨b, hb⟩ := h a List.mem_cons_self
    obtain ⟨l', hl'⟩ := ih fun a' ha' => h a' (List.mem_cons_of_mem a ha')
    exact ⟨b :: l', .cons hb hl'⟩

theorem find?_eq_some {α : Type u} {β : Type v} {R : α → β → Prop} {l : List α} {l' : List β}
    {p : α → Bool} {q : β → Bool} (h : Forall₂ R l l') (hpq : ∀ a b, R a b → p a = q b) {a : α}
    (ha : l.find? p = some a) : ∃ b, l'.find? q = some b ∧ R a b := by
  induction h with
  | nil => cases ha
  | @cons a' b' _ _ hR _ ih =>
    cases hp : p a' with
    | true => grind
    | false => grind

end List.Forall₂

/-- A loop that reads each element, or stops, and then adds what was read. -/
theorem List.foldlM_map_eq_some_iff {α : Type u} {β γ : Type v} {read : α → Option γ}
    {add : β → γ → β} {l : List α} :
    ∀ {b b' : β}, l.foldlM (fun b a => (read a).map (add b)) b = some b' ↔
      ∃ cs, List.Forall₂ (fun a c => read a = some c) l cs ∧ b' = cs.foldl add b := by
  induction l with
  | nil =>
    intro b b'
    constructor
    · simp_all
    · rintro ⟨cs, hcs, rfl⟩
      cases hcs
      rfl
  | cons a l ih =>
    intro b b'
    rw [List.foldlM_cons]
    constructor
    · intro h
      obtain ⟨b₁, hread, hrest⟩ := Option.bind_eq_some_iff.mp h
      obtain ⟨c, hc, rfl⟩ := Option.map_eq_some_iff.mp hread
      obtain ⟨cs, hcs, rfl⟩ := ih.mp hrest
      exact ⟨c :: cs, .cons hc hcs, rfl⟩
    · rintro ⟨cs, hcs, rfl⟩
      cases hcs with
      | cons hc hcs =>
        rw [hc]
        exact ih.mpr ⟨_, hcs, rfl⟩
