import Mathlib.Data.List.Perm.Subperm

/-!
# Items that go out in batches

Items wait in a queue and go out in batches of a limited size, those of a batch that failed one by
one.  `Takes` says what it is to take items from a list: what is taken and left was there in this
order, only wanted items are taken, and none of them is lost.
-/

universe u

variable {α : Type u}

/-- The items that wait. -/
structure BatchQueue (α : Type u) where
  due : List α
  /-- Those of a failed batch. -/
  alone : List α

namespace BatchQueue

def items (q : BatchQueue α) : List α := q.due ++ q.alone

section

variable (keep : α → Bool)

/-- The first item that is wanted, and what is behind it. -/
def takeFirst : List α → List α × List α
  | [] => ([], [])
  | a :: l => if keep a then ([a], l) else takeFirst l

/-- The first items that are wanted, as many as there is room for, and what is behind them. -/
def takeUpTo : Nat → List α → List α × List α
  | _, [] => ([], [])
  | 0, a :: l => ([], a :: l)
  | room + 1, a :: l =>
    if keep a then (a :: (takeUpTo room l).1, (takeUpTo room l).2) else takeUpTo (room + 1) l

/-- The next batch, and the queue without it. -/
def next (max : Nat) (q : BatchQueue α) : List α × BatchQueue α :=
  let (first, alone) := takeFirst keep q.alone
  if first ≠ [] then (first, { q with alone := alone })
  else ((takeUpTo keep max q.due).1, { due := (takeUpTo keep max q.due).2, alone := alone })

/-- A batch is taken from a list, and some items are left. -/
@[grind cases]
structure Takes (l batch rest : List α) : Prop where
  sublist : (batch ++ rest).Sublist l
  kept : ∀ a ∈ batch, keep a = true
  complete : ∀ a ∈ l, keep a = true → a ∈ batch ++ rest

end

variable {keep : α → Bool} {l batch rest : List α} {a : α}

namespace Takes

theorem nothing (l : List α) : Takes keep l [] l where
  sublist := .refl l
  kept _ h := absurd h List.not_mem_nil
  complete _ h _ := h

theorem take (ha : keep a = true) (h : Takes keep l batch rest) :
    Takes keep (a :: l) (a :: batch) rest where
  sublist := h.sublist.cons_cons a
  kept := List.forall_mem_cons.mpr ⟨ha, h.kept⟩
  complete b hb hkeep := by grind

theorem skip (ha : ¬ keep a = true) (h : Takes keep l batch rest) :
    Takes keep (a :: l) batch rest where
  sublist := h.sublist.cons a
  kept := h.kept
  complete b hb hkeep := by grind

end Takes

theorem takeFirst_takes (keep : α → Bool) (l : List α) :
    Takes keep l (takeFirst keep l).1 (takeFirst keep l).2 := by
  induction l with
  | nil => exact .nothing []
  | cons a l ih =>
    simp only [takeFirst]
    split
    · next ha => exact .take ha (.nothing l)
    · next ha => exact .skip ha ih

theorem takeFirst_length_le (l : List α) : (takeFirst keep l).1.length ≤ 1 := by
  induction l with
  | nil => exact Nat.zero_le 1
  | cons a l ih =>
    simp only [takeFirst]
    split
    · exact Nat.le_refl 1
    · exact ih

theorem takeFirst_eq_nil (l : List α) (h : (takeFirst keep l).1 = []) :
    (takeFirst keep l).2 = [] := by
  induction l with
  | nil => rfl
  | cons a l ih =>
    simp only [takeFirst] at h ⊢
    split at h
    · cases h
    · next ha =>
      rw [if_neg ha]
      exact ih h

theorem takeUpTo_takes (keep : α → Bool) (l : List α) : ∀ room,
    Takes keep l (takeUpTo keep room l).1 (takeUpTo keep room l).2 := by
  induction l with
  | nil => exact fun room => by cases room <;> exact .nothing []
  | cons a l ih =>
    intro room
    cases room with
    | zero => exact .nothing (a :: l)
    | succ room =>
      simp only [takeUpTo]
      split
      · next ha => exact .take ha (ih room)
      · next ha => exact .skip ha (ih (room + 1))

theorem takeUpTo_length_le (l : List α) : ∀ room, (takeUpTo keep room l).1.length ≤ room := by
  induction l with
  | nil => exact fun room => by cases room <;> exact Nat.zero_le _
  | cons a l ih =>
    intro room
    cases room with
    | zero => exact Nat.le_refl 0
    | succ room =>
      simp only [takeUpTo]
      split
      · exact Nat.succ_le_succ (ih room)
      · exact ih (room + 1)

theorem takeUpTo_eq_nil (l : List α) (room : Nat) (h : (takeUpTo keep (room + 1) l).1 = []) :
    (takeUpTo keep (room + 1) l).2 = [] := by
  induction l with
  | nil => rfl
  | cons a l ih =>
    simp only [takeUpTo] at h ⊢
    split at h
    · cases h
    · next ha =>
      rw [if_neg ha]
      exact ih h

/-! ## The next batch -/

/-- One of a failed batch is next, or they are all unwanted and gone. -/
theorem next_cases (keep : α → Bool) (max : Nat) (q : BatchQueue α) :
    ((takeFirst keep q.alone).1 ≠ [] ∧
      next keep max q = ((takeFirst keep q.alone).1, ⟨q.due, (takeFirst keep q.alone).2⟩)) ∨
    (Takes keep q.alone [] [] ∧
      next keep max q = ((takeUpTo keep max q.due).1, ⟨(takeUpTo keep max q.due).2, []⟩)) := by
  by_cases hfirst : (takeFirst keep q.alone).1 = []
  · have halone := takeFirst_eq_nil q.alone hfirst
    have htakes := takeFirst_takes keep q.alone
    simp_all [next, ne_eq, not_true_eq_false]
  · grind [next]

variable {max : Nat} {q : BatchQueue α}

theorem next_subperm :
    ((next keep max q).1 ++ (next keep max q).2.items).Subperm q.items := by
  obtain ⟨-, heq⟩ | ⟨-, heq⟩ := next_cases keep max q
  · rw [heq, items, items]
    have hsub := (takeFirst_takes keep q.alone).sublist
    have hperm : ((takeFirst keep q.alone).1 ++ (q.due ++ (takeFirst keep q.alone).2)).Perm
        (q.due ++ ((takeFirst keep q.alone).1 ++ (takeFirst keep q.alone).2)) := by
      grind [List.perm_append_comm.append_right]
    exact hperm.subperm.trans (hsub.append_left q.due).subperm
  · rw [heq, items, items, List.append_nil]
    exact ((takeUpTo_takes keep q.due max).sublist.trans
      (List.sublist_append_left _ _)).subperm

theorem next_kept {a : α} (ha : a ∈ (next keep max q).1) : keep a = true := by
  obtain ⟨-, heq⟩ | ⟨-, heq⟩ := next_cases keep max q
  · rw [heq] at ha
    exact (takeFirst_takes keep q.alone).kept a ha
  · rw [heq] at ha
    exact (takeUpTo_takes keep q.due max).kept a ha

theorem next_complete {a : α} (ha : a ∈ q.items) (hkeep : keep a = true) :
    a ∈ (next keep max q).1 ++ (next keep max q).2.items := by
  have hdue := takeUpTo_takes keep q.due max
  have halone := takeFirst_takes keep q.alone
  obtain ⟨-, heq⟩ | ⟨hgone, heq⟩ := next_cases keep max q
  all_goals grind [items]

theorem next_length_le (hmax : 0 < max) : (next keep max q).1.length ≤ max := by
  obtain ⟨-, heq⟩ | ⟨-, heq⟩ := next_cases keep max q
  · rw [heq]
    exact Nat.le_trans (takeFirst_length_le q.alone) hmax
  · rw [heq]
    exact takeUpTo_length_le q.due max

theorem next_eq_nil (hmax : 0 < max) (h : (next keep max q).1 = []) :
    (next keep max q).2.items = [] := by
  obtain ⟨hne, heq⟩ | ⟨-, heq⟩ := next_cases keep max q
  · rw [heq] at h
    exact absurd h hne
  · obtain ⟨room, rfl⟩ := Nat.exists_eq_succ_of_ne_zero (Nat.ne_of_gt hmax)
    rw [heq] at h ⊢
    rw [items, takeUpTo_eq_nil q.due room h, List.append_nil]

/-- A batch and the queue without it. -/
@[grind cases]
structure NextBatch (keep : α → Bool) (max : Nat) (q : BatchQueue α) (batch : List α)
    (rest : BatchQueue α) : Prop where
  subperm : (batch ++ rest.items).Subperm q.items
  kept : ∀ a ∈ batch, keep a = true
  complete : ∀ a ∈ q.items, keep a = true → a ∈ batch ++ rest.items
  length_le : batch.length ≤ max
  eq_nil : batch = [] → rest.items = []

theorem nextBatch (hmax : 0 < max) {rest : BatchQueue α} (h : next keep max q = (batch, rest)) :
    NextBatch keep max q batch rest := by
  obtain ⟨rfl, rfl⟩ := Prod.mk.inj h
  exact ⟨next_subperm, fun _ => next_kept, fun _ => next_complete, next_length_le hmax,
    next_eq_nil hmax⟩

end BatchQueue
