import Mathlib.Data.List.Nodup
import Mathlib.Data.List.Perm.Basic

/-!
# Resources that follow demands

A store holds resources, at most one at each place.  A resource is put at its place, where it
replaces what was there, and a place is cleared.

Each demand asks for one resource.  The store mirrors the demands when it has just what they ask
for.  The lemmas say when a change of the store follows a change of the demands.
-/

universe u v w

namespace Mirror

variable {ρ : Type u} {κ : Type v} {δ : Type w} (place : ρ → κ) (make : δ → ρ)

/-- The store has the resource of each demand and no other, and the demands ask for distinct
places. -/
@[grind cases]
structure Mirrors (ds : List δ) (store : List ρ) : Prop where
  distinct : (ds.map fun d => place (make d)).Nodup
  mem : ∀ x, x ∈ store ↔ x ∈ ds.map make

variable {place make} {ds : List δ} {d d' : δ} {store : List ρ} {x y : ρ} {k : κ}

theorem Mirrors.perm (h : Mirrors place make ds store) (hstore : (store.map place).Nodup) :
    store.Perm (ds.map make) := by
  have hds : (ds.map make).Nodup := by grind
  exact (List.perm_ext_iff_of_nodup (hstore.of_map place) hds).mpr h.mem

theorem Mirrors.congr {ds' : List δ} (hperm : ds.Perm ds') (h : Mirrors place make ds store) :
    Mirrors place make ds' store where
  distinct := (hperm.map _).nodup_iff.mp h.distinct
  mem := fun x => (h.mem x).trans (hperm.map make).mem_iff

theorem mirrors_congr {store' : List ρ} (hmem : ∀ x, x ∈ store' ↔ x ∈ store) :
    Mirrors place make ds store' ↔ Mirrors place make ds store :=
  ⟨fun h => ⟨h.distinct, fun x => (hmem x).symm.trans (h.mem x)⟩,
    fun h => ⟨h.distinct, fun x => (hmem x).trans (h.mem x)⟩⟩

theorem Mirrors.make_mem (h : Mirrors place make ds store) (hd : d ∈ ds) : make d ∈ store :=
  (h.mem _).mpr (List.mem_map_of_mem hd)

theorem Mirrors.tail (h : Mirrors place make (d :: ds) store) :
    place (make d) ∉ ds.map fun d => place (make d) :=
  (List.nodup_cons.mp h.distinct).1

/-! ## Putting and clearing -/

variable [DecidableEq κ]

variable (place) in
def drop (store : List ρ) (k : κ) : List ρ := store.filter fun x => place x ≠ k

variable (place) in
def put (store : List ρ) (x : ρ) : List ρ := drop place store (place x) ++ [x]

theorem mem_drop : x ∈ drop place store k ↔ x ∈ store ∧ place x ≠ k := by simp [drop]

theorem mem_put : x ∈ put place store y ↔ x = y ∨ (x ∈ store ∧ place x ≠ place y) := by
  rw [put, List.mem_append, mem_drop, List.mem_singleton, or_comm]

theorem mem_put_of_mem (h : (store.map place).Nodup) (hy : y ∈ store) :
    x ∈ put place store y ↔ x ∈ store := by
  rw [mem_put]
  constructor
  · rintro (rfl | ⟨hx, -⟩)
    · exact hy
    · exact hx
  · intro hx
    by_cases heq : place x = place y
    · exact .inl (List.inj_on_of_nodup_map h hx hy heq)
    · exact .inr ⟨hx, heq⟩

theorem nodup_drop (h : (store.map place).Nodup) (k : κ) :
    ((drop place store k).map place).Nodup :=
  h.sublist (List.filter_sublist.map place)

theorem nodup_put (h : (store.map place).Nodup) (x : ρ) :
    ((put place store x).map place).Nodup := by
  rw [put, List.map_append, List.map_singleton]
  grind [nodup_drop, List.nodup_singleton, List.disjoint_singleton, mem_drop]

theorem perm_cons_drop (h : (store.map place).Nodup) (hx : x ∈ store) :
    store.Perm (x :: drop place store (place x)) := by
  have hrest : (x :: drop place store (place x)).Nodup :=
    List.nodup_cons.mpr ⟨fun hmem => (mem_drop.mp hmem).2 rfl, (nodup_drop h _).of_map place⟩
  refine (List.perm_ext_iff_of_nodup (h.of_map place) hrest).mpr fun y => ?_
  rw [List.mem_cons, mem_drop]
  constructor
  · intro hy
    by_cases heq : place y = place x
    · exact .inl (List.inj_on_of_nodup_map h hy hx heq)
    · exact .inr ⟨hy, heq⟩
  · rintro (rfl | ⟨hy, -⟩)
    · exact hx
    · exact hy

theorem drop_of_notMem (h : k ∉ store.map place) : drop place store k = store := by
  refine List.filter_eq_self.mpr fun x hx => ?_
  simp_all

/-! ## Changes of the demands -/

theorem Mirrors.drop (h : Mirrors place make (d :: ds) store) :
    Mirrors place make ds (drop place store (place (make d))) where
  distinct := (List.nodup_cons.mp h.distinct).2
  mem := by
    intro x
    rw [mem_drop, h.mem, List.map_cons, List.mem_cons]
    constructor
    · rintro ⟨rfl | hx, hne⟩
      · exact absurd rfl hne
      · exact hx
    · intro hx
      refine ⟨.inr hx, fun heq => h.tail ?_⟩
      grind

/-- A demand comes: its resource is put at a place that no other asks for. -/
theorem Mirrors.put_iff (h : Mirrors place make ds store) (d : δ) :
    Mirrors place make (d :: ds) (put place store (make d)) ↔
      place (make d) ∉ ds.map fun d => place (make d) := by
  constructor
  · exact Mirrors.tail
  · intro hfresh
    refine ⟨List.nodup_cons.mpr ⟨hfresh, h.distinct⟩, fun x => ?_⟩
    rw [mem_put, h.mem, List.map_cons, List.mem_cons]
    grind

/-- A demand changes, and the new resource is put without clearing the old place. -/
theorem Mirrors.replace_iff (h : Mirrors place make (d :: ds) store) (d' : δ) :
    Mirrors place make (d' :: ds) (put place store (make d')) ↔
      place (make d') ∉ (ds.map fun d => place (make d)) ∧ place (make d') = place (make d) := by
  constructor
  · intro h'
    refine ⟨h'.tail, ?_⟩
    by_contra hne
    -- the old resource is still there, and nobody asks for it
    have hold : make d ∈ (d' :: ds).map make := (h'.mem _).mp
      (mem_put.mpr (.inr ⟨h.make_mem List.mem_cons_self, Ne.symm hne⟩))
    grind
  · rintro ⟨hfresh, hplace⟩
    refine (mirrors_congr fun x => ?_).mp ((h.drop.put_iff d').mpr hfresh)
    rw [mem_put, mem_put, mem_drop, hplace, and_assoc, and_self]

/-- The place of another demand is cleared on the way. -/
theorem Mirrors.not_of_drop (hd : d ∈ ds) (d' : δ) :
    ¬Mirrors place make (d' :: ds)
      (put place (Mirror.drop place store (place (make d))) (make d')) := by
  intro h
  have hmem := h.make_mem (List.mem_cons_of_mem d' hd)
  grind [mem_put, Mirrors.tail, mem_drop]

/-! ## All demands at once -/

theorem mem_foldl_put : ∀ {ds : List δ} {store : List ρ},
    (ds.map fun d => place (make d)).Nodup →
      (x ∈ ds.foldl (fun store d => put place store (make d)) store ↔
        x ∈ ds.map make ∨ (x ∈ store ∧ place x ∉ ds.map fun d => place (make d)))
  | [], store, _ => by simp
  | d :: ds, store, hdistinct => by
    obtain ⟨hfresh, hrest⟩ := List.nodup_cons.mp hdistinct
    rw [List.foldl_cons, mem_foldl_put hrest, mem_put]
    simp only [List.map_cons, List.mem_cons, not_or]
    constructor
    · rintro (hx | ⟨rfl | ⟨hx, hne⟩, hnot⟩)
      · exact .inl (.inr hx)
      · exact .inl (.inl rfl)
      · exact .inr ⟨hx, hne, hnot⟩
    · rintro ((rfl | hx) | ⟨hx, hne, hnot⟩)
      · exact .inr ⟨.inl rfl, hfresh⟩
      · exact .inl hx
      · exact .inr ⟨.inr ⟨hx, hne⟩, hnot⟩

theorem mem_foldl_put_congr {store' : List ρ} (hdistinct : (ds.map fun d => place (make d)).Nodup)
    (hmem : ∀ x, x ∈ store' ↔ x ∈ store) :
    x ∈ ds.foldl (fun store d => put place store (make d)) store' ↔
      x ∈ ds.foldl (fun store d => put place store (make d)) store := by
  rw [mem_foldl_put hdistinct, mem_foldl_put hdistinct, hmem]

/-- Putting all is enough just when everything that was there is at a place asked for. -/
theorem mirrors_foldl_put_iff (hdistinct : (ds.map fun d => place (make d)).Nodup) :
    Mirrors place make ds (ds.foldl (fun store d => put place store (make d)) store) ↔
      ∀ x ∈ store, place x ∈ ds.map fun d => place (make d) := by
  constructor
  · intro h x hx
    by_contra hnot
    have hmem := (h.mem x).mp ((mem_foldl_put hdistinct).mpr (.inr ⟨hx, hnot⟩))
    grind
  · intro hall
    refine ⟨hdistinct, fun x => ?_⟩
    rw [mem_foldl_put hdistinct]
    exact or_iff_left fun h => h.2 (hall x h.1)

end Mirror
