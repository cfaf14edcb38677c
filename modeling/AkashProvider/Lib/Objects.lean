import Mathlib.Data.List.Nodup
import AkashProvider.Lib.Selector

/-!
# Versioned objects

An API keeps objects by name.  Every write gives the object a new version, a writer that names a
version writes only if the object still has it, and a write that changes nothing leaves the
version.
-/

universe u v

/-- The labels of two objects are the same as maps. -/
def Labels.Same (a b : Labels) : Prop := ∀ e ∈ a ++ b, a.lookup e.1 = b.lookup e.1

instance (a b : Labels) : Decidable (Labels.Same a b) :=
  inferInstanceAs (Decidable (∀ e ∈ a ++ b, a.lookup e.1 = b.lookup e.1))

theorem Labels.Same.refl (a : Labels) : Labels.Same a a := fun _ _ => rfl

theorem Labels.Same.lookup_eq {a b : Labels} (h : Labels.Same a b) (key : String) :
    a.lookup key = b.lookup key := by
  by_cases hkey : ∃ e ∈ a ++ b, e.1 = key
  · obtain ⟨e, he, rfl⟩ := hkey
    exact h e he
  · have hnone : ∀ l : Labels, (∀ e ∈ l, e ∈ a ++ b) → l.lookup key = none := by grind
    grind

inductive ApiErr where
  | notFound
  | alreadyExists
  | conflict
  /-- An object without a name. -/
  | invalid
  /-- The call did not get through. -/
  | unavailable
deriving DecidableEq

structure ApiObject (σ : Type u) where
  name : String
  labels : Labels
  annotations : Labels
  /-- Zero in an object that does not come from the API. -/
  resourceVersion : Nat
  spec : σ
deriving DecidableEq

namespace ApiObject

variable {σ : Type u}

/-- The objects differ in their versions at most. -/
def SameContent (a b : ApiObject σ) : Prop :=
  a.labels.Same b.labels ∧ a.annotations.Same b.annotations ∧ a.spec = b.spec

instance [DecidableEq σ] (a b : ApiObject σ) : Decidable (a.SameContent b) :=
  inferInstanceAs (Decidable (_ ∧ _ ∧ _))

end ApiObject

structure Collection (σ : Type u) where
  objs : List (ApiObject σ)
  /-- The latest version that was given. -/
  revision : Nat
  names_nodup : (objs.map (·.name)).Nodup
  bounded : ∀ o ∈ objs, 0 < o.resourceVersion ∧ o.resourceVersion ≤ revision

namespace Collection

variable {σ : Type u} {C C' : Collection σ} {o o' : ApiObject σ} {name : String}

def empty : Collection σ := ⟨[], 0, List.nodup_nil, nofun⟩

/-- The collection without objects, where versions go on. -/
def cleared (C : Collection σ) : Collection σ := ⟨[], C.revision, List.nodup_nil, nofun⟩

/-! ## Reading -/

def find (C : Collection σ) (name : String) : Option (ApiObject σ) :=
  C.objs.find? (·.name = name)

theorem find_mem (h : C.find name = some o) : o ∈ C.objs ∧ o.name = name :=
  ⟨List.mem_of_find?_eq_some h, by simpa using List.find?_some h⟩

theorem find_eq_none_iff : C.find name = none ↔ name ∉ C.objs.map (·.name) := by
  simp [find, List.find?_eq_none]

theorem find_of_mem (h : o ∈ C.objs) : C.find o.name = some o := by
  cases hfind : C.find o.name with
  | none => exact absurd (List.mem_map_of_mem h) (find_eq_none_iff.mp hfind)
  | some o' =>
    obtain ⟨hmem, hname⟩ := find_mem hfind
    rw [List.inj_on_of_nodup_map C.names_nodup hmem h hname]

theorem mem_objs_iff : o ∈ C.objs ↔ C.find o.name = some o := ⟨find_of_mem, fun h => (find_mem h).1⟩

def names (C : Collection σ) : List String := C.objs.map (·.name)

def specOf (C : Collection σ) (name : String) : Option σ := (C.find name).map (·.spec)

def get (C : Collection σ) (name : String) : Except ApiErr (ApiObject σ) :=
  match C.find name with
  | none => .error .notFound
  | some o => .ok o

theorem get_eq_ok_iff : C.get name = .ok o ↔ C.find name = some o := by
  cases h : C.find name <;> simp [get, h]

theorem get_eq_error_iff {e : ApiErr} :
    C.get name = .error e ↔ C.find name = none ∧ e = .notFound := by
  cases h : C.find name <;> simp [get, h, eq_comm]

/-! ## Writing -/

/-- The object with a new version, in the place of the one of its name or at the end. -/
def put (C : Collection σ) (o : ApiObject σ) : Collection σ where
  objs := C.objs.filter (·.name ≠ o.name) ++ [{ o with resourceVersion := C.revision + 1 }]
  revision := C.revision + 1
  names_nodup := by
    rw [List.map_append, List.nodup_append]
    refine ⟨C.names_nodup.sublist (List.filter_sublist.map _), List.nodup_singleton _, ?_⟩
    intro a ha b hb
    obtain ⟨o', ho', rfl⟩ := List.mem_map.mp ha
    obtain rfl := List.mem_singleton.mp hb
    simpa using (List.mem_filter.mp ho').2
  bounded := by
    intro o' ho'
    obtain hold | hnew := List.mem_append.mp ho'
    · obtain ⟨hpos, hle⟩ := C.bounded o' (List.mem_filter.mp hold).1
      exact ⟨hpos, Nat.le_succ_of_le hle⟩
    · obtain rfl := List.mem_singleton.mp hnew
      exact ⟨Nat.succ_pos _, Nat.le_refl _⟩

def stored (C : Collection σ) (o : ApiObject σ) : ApiObject σ :=
  { o with resourceVersion := C.revision + 1 }

def remove (C : Collection σ) (name : String) : Collection σ where
  objs := C.objs.filter (·.name ≠ name)
  revision := C.revision
  names_nodup := C.names_nodup.sublist (List.filter_sublist.map _)
  bounded o ho := C.bounded o (List.mem_filter.mp ho).1

/-- The collection without the objects that `p` has. -/
def removeAll (C : Collection σ) (p : ApiObject σ → Prop) [DecidablePred p] : Collection σ where
  objs := C.objs.filter fun o => ¬ p o
  revision := C.revision
  names_nodup := C.names_nodup.sublist (List.filter_sublist.map _)
  bounded o ho := C.bounded o (List.mem_filter.mp ho).1

theorem find_put_self : (C.put o).find o.name = some (C.stored o) :=
  find_of_mem (C := C.put o) (o := C.stored o)
    (List.mem_append_right _ (List.mem_singleton.mpr rfl))

theorem find_put_of_ne (h : name ≠ o.name) : (C.put o).find name = C.find name := by
  have hnew : ¬ o.name = name := fun heq => h heq.symm
  rw [find, put, List.find?_append, List.find?_filter]
  simp only [find, List.find?_cons, hnew, decide_false, List.find?_nil, Option.or_none]
  grind

theorem find_remove_self : (C.remove name).find name = none := by
  rw [find_eq_none_iff]
  simp [remove]

variable {other : String}

theorem find_remove_of_ne (h : name ≠ other) :
    (C.remove other).find name = C.find name := by
  rw [find, remove, List.find?_filter]
  refine congrArg (fun p => List.find? p C.objs) (funext fun o' => ?_)
  by_cases ho' : o'.name = name <;> simp [ho', h]

theorem find_remove :
    (C.remove other).find name = if name = other then none else C.find name := by
  split
  · next h => rw [h, find_remove_self]
  · next h => exact find_remove_of_ne h

theorem find_removeAll {p : ApiObject σ → Prop} [DecidablePred p] :
    (C.removeAll p).find name = (C.find name).filter fun o => ¬ p o := by
  cases hfind : C.find name with
  | none =>
    rw [find_eq_none_iff] at hfind
    rw [Option.filter_none, find_eq_none_iff]
    exact fun hmem => hfind ((List.filter_sublist.map _).subset hmem)
  | some o =>
    obtain ⟨hmem, rfl⟩ := find_mem hfind
    by_cases hp : p o
    · rw [Option.filter_some, if_neg (by simpa using hp), find_eq_none_iff]
      intro hname
      obtain ⟨o', ho', hname⟩ := List.mem_map.mp hname
      obtain ⟨ho', hp'⟩ := List.mem_filter.mp ho'
      obtain rfl := List.inj_on_of_nodup_map C.names_nodup ho' hmem hname
      simp [hp] at hp'
    · grind [find_of_mem, removeAll]

def create (C : Collection σ) (o : ApiObject σ) : Except ApiErr (ApiObject σ × Collection σ) :=
  if o.name = "" then .error .invalid
  else if (C.find o.name).isSome then .error .alreadyExists
  else .ok (C.stored o, C.put o)

/-- A version that is not zero must be the present one. -/
def update [DecidableEq σ] (C : Collection σ) (o : ApiObject σ) :
    Except ApiErr (ApiObject σ × Collection σ) :=
  if o.name = "" then .error .invalid
  else
    match C.find o.name with
    | none => .error .notFound
    | some cur =>
      if o.resourceVersion ≠ 0 ∧ o.resourceVersion ≠ cur.resourceVersion then .error .conflict
      else if o.SameContent cur then .ok (cur, C)
      else .ok (C.stored o, C.put o)

def patch [DecidableEq σ] (C : Collection σ) (name : String) (f : σ → σ) :
    Except ApiErr (ApiObject σ × Collection σ) :=
  match C.find name with
  | none => .error .notFound
  | some cur => C.update { cur with spec := f cur.spec }

def delete (C : Collection σ) (name : String) : Except ApiErr (Collection σ) :=
  match C.find name with
  | none => .error .notFound
  | some _ => .ok (C.remove name)

theorem create_eq_ok (h : C.create o = .ok (o', C')) :
    C.find o.name = none ∧ o' = C.stored o ∧ C' = C.put o := by
  rw [create] at h
  split at h
  · cases h
  · split at h
    · cases h
    · next hfind =>
      cases h
      exact ⟨by simpa using hfind, rfl, rfl⟩

theorem update_eq_ok [DecidableEq σ] (h : C.update o = .ok (o', C')) :
    ∃ cur, C.find o.name = some cur ∧
      (o.resourceVersion = 0 ∨ o.resourceVersion = cur.resourceVersion) ∧
      (o.SameContent cur ∧ o' = cur ∧ C' = C ∨ o' = C.stored o ∧ C' = C.put o) := by
  rw [update] at h
  grind

theorem find_update [DecidableEq σ] (h : C.update o = .ok (o', C')) :
    C'.find o.name = some o' ∧ o'.spec = o.spec ∧ o'.name = o.name ∧
      ∀ name, name ≠ o.name → C'.find name = C.find name := by
  obtain ⟨cur, hcur, -, ⟨hsame, rfl, rfl⟩ | ⟨rfl, rfl⟩⟩ := update_eq_ok h
  · exact ⟨hcur, hsame.2.2.symm, (find_mem hcur).2, fun _ _ => rfl⟩
  · exact ⟨find_put_self, rfl, rfl, fun _ hname => find_put_of_ne hname⟩

theorem labels_update [DecidableEq σ] (h : C.update o = .ok (o', C')) (key : String) :
    o'.labels.lookup key = o.labels.lookup key := by
  obtain ⟨cur, -, -, ⟨hsame, rfl, -⟩ | ⟨rfl, -⟩⟩ := update_eq_ok h
  · exact (hsame.1.lookup_eq key).symm
  · rfl

theorem delete_eq_ok (h : C.delete name = .ok C') : C' = C.remove name := by
  rw [delete] at h
  split at h
  · cases h
  · cases h
    rfl

theorem patch_eq_ok [DecidableEq σ] {f : σ → σ} (h : C.patch name f = .ok (o', C')) :
    ∃ cur, C.find name = some cur ∧ C.update { cur with spec := f cur.spec } = .ok (o', C') := by
  cases hfind : C.find name with
  | none =>
    rw [patch, hfind] at h
    cases h
  | some cur =>
    rw [patch, hfind] at h
    exact ⟨cur, rfl, h⟩

/-! ## Objects written one after the other -/

/-- The specs after the objects were written in turn. -/
def overwritten (specs : String → Option σ) (os : List (ApiObject σ)) : String → Option σ :=
  os.foldl (fun specs o => Function.update specs o.name (some o.spec)) specs

variable {specs : String → Option σ} {os : List (ApiObject σ)}

theorem overwritten_cons : overwritten specs (o :: os) =
    overwritten (Function.update specs o.name (some o.spec)) os := rfl

variable {os' : List (ApiObject σ)}

theorem overwritten_append :
    overwritten specs (os ++ os') = overwritten (overwritten specs os) os' :=
  List.foldl_append

theorem overwritten_of_notMem (specs : String → Option σ) (h : name ∉ os.map (·.name)) :
    overwritten specs os name = specs name := by
  induction os generalizing specs with
  | nil => rfl
  | cons o os ih =>
    rw [List.map_cons, List.mem_cons, not_or] at h
    rw [overwritten_cons, ih _ h.2, Function.update_of_ne h.1]

theorem overwritten_of_mem (specs : String → Option σ) (h : name ∈ os.map (·.name)) :
    ∃ o ∈ os, o.name = name ∧ overwritten specs os name = some o.spec := by
  induction os generalizing specs with
  | nil => exact absurd h List.not_mem_nil
  | cons o os ih =>
    rw [overwritten_cons]
    by_cases hrest : name ∈ os.map (·.name)
    · simp_all
    grind [overwritten_of_notMem, Function.update_self]

theorem overwritten_congr
    (h : os.map (fun o => (o.name, o.spec)) = os'.map fun o => (o.name, o.spec)) :
    overwritten specs os = overwritten specs os' := by
  have hfold : ∀ os : List (ApiObject σ), overwritten specs os =
      (os.map fun o => (o.name, o.spec)).foldl
        (fun (specs : String → Option σ) e => Function.update specs e.1 (some e.2)) specs := by
    intro os
    rw [List.foldl_map]
    rfl
  rw [hfold, hfold, h]

theorem specOf_put : (C.put o).specOf = Function.update C.specOf o.name (some o.spec) := by
  funext name
  by_cases hname : name = o.name
  · subst hname
    rw [specOf, find_put_self, Function.update_self]
    rfl
  · rw [specOf, find_put_of_ne hname, Function.update_of_ne hname]
    rfl

theorem specOf_update [DecidableEq σ] (h : C.update o = .ok (o', C')) :
    C'.specOf = Function.update C.specOf o.name (some o.spec) := by
  obtain ⟨cur, hcur, -, ⟨hsame, -, rfl⟩ | ⟨-, rfl⟩⟩ := update_eq_ok h
  · rw [eq_comm, Function.update_eq_self_iff, specOf, hcur, Option.map_some, hsame.2.2]
  · exact specOf_put

end Collection
