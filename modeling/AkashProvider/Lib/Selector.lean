import Mathlib.Data.List.Basic

/-!
# Labels and selectors

A collection holds resources with labels.  A selector asks for labels with given
values, and deleting by a selector removes the resources that have them all.
-/

universe u

abbrev Labels := List (String × String)

/-- The labels that a resource must have. -/
abbrev Selector := List (String × String)

namespace Selector

def Selects (sel : Selector) (labels : Labels) : Prop :=
  ∀ e ∈ sel, labels.lookup e.1 = some e.2

instance (sel : Selector) (labels : Labels) : Decidable (sel.Selects labels) :=
  inferInstanceAs (Decidable (∀ e ∈ sel, labels.lookup e.1 = some e.2))

theorem selects_nil (labels : Labels) : Selects [] labels :=
  fun _ h => absurd h List.not_mem_nil

theorem selects_cons {name value : String} {sel : Selector} {labels : Labels} :
    Selects ((name, value) :: sel) labels ↔ labels.lookup name = some value ∧ sel.Selects labels :=
  List.forall_mem_cons

variable {ρ : Type u} (labels : ρ → Labels) (sel : Selector) (store : List ρ)

def deleteCollection : List ρ := store.filter fun x => ¬ sel.Selects (labels x)

variable {labels sel store}

theorem mem_deleteCollection {x : ρ} :
    x ∈ sel.deleteCollection labels store ↔ x ∈ store ∧ ¬ sel.Selects (labels x) := by
  simp only [deleteCollection, List.mem_filter, decide_eq_true_eq]

/-- Deleting keeps exactly the resources without a property, if the selected ones are those
that have it. -/
theorem deleteCollection_eq_filter_iff {P : ρ → Prop} [DecidablePred P] :
    sel.deleteCollection labels store = store.filter (fun x => ¬ P x) ↔
      ∀ x ∈ store, sel.Selects (labels x) ↔ P x := by
  constructor
  · intro h x hx
    have hmem : x ∈ sel.deleteCollection labels store ↔ x ∈ store.filter (fun x => ¬ P x) := by
      rw [h]
    grind [mem_deleteCollection]
  · intro h
    exact List.filter_congr fun x hx => by rw [decide_eq_decide, h x hx]

theorem deleteCollection_eq_nil_iff :
    sel.deleteCollection labels store = [] ↔ ∀ x ∈ store, sel.Selects (labels x) := by
  simp only [deleteCollection, List.filter_eq_nil_iff, decide_eq_true_eq, not_not]

end Selector

/-! ## Requirements -/

/-- A requirement on the label of a key. -/
inductive Requirement where
  | equals (key value : String)
  /-- Also met by a resource that does not have the label. -/
  | notIn (key : String) (values : List String)

namespace Requirement

def Meets : Requirement → Labels → Prop
  | .equals key value, labels => labels.lookup key = some value
  | .notIn key values, labels => ∀ value ∈ values, labels.lookup key ≠ some value

instance (labels : Labels) : (r : Requirement) → Decidable (r.Meets labels)
  | .equals key value => inferInstanceAs (Decidable (labels.lookup key = some value))
  | .notIn key values =>
    inferInstanceAs (Decidable (∀ value ∈ values, labels.lookup key ≠ some value))

def MeetsAll (rs : List Requirement) (labels : Labels) : Prop := ∀ r ∈ rs, r.Meets labels

instance (rs : List Requirement) (labels : Labels) : Decidable (MeetsAll rs labels) :=
  inferInstanceAs (Decidable (∀ r ∈ rs, r.Meets labels))

end Requirement
