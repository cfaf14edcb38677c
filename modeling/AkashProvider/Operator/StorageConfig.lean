import AkashProvider.Types.Cluster

/-!
# Storage classes of the inventory operator

Classes are taken out of a slice while the loop ranges over it.  `range` goes on over the old
length, so the class after one that was removed is passed over, and the last one can be removed a
second time, which panics (`unavailable_class_kept`, `rangeRemove_iff`).  From a sorted slice a
pass removes every second copy of a class (`rangeRemove_sorted`).
-/

namespace AkashProvider.Operator

section

/-! ## Removal in a range -/

variable {α : Type} (p : α → Bool)

/-- `append(slice[:j], slice[j+1:]...)` for a slice of `m` elements at the front of an array. -/
def removeAt (arr : List α) (m j : Nat) : List α := (arr.take m).eraseIdx j ++ arr.drop (m - 1)

/-- The rest of a loop over the old length of a slice, which removes the elements with `p` from
the slice.  `none` is a panic: the index is beyond the slice. -/
def rangeLoop : (left j : Nat) → (arr : List α) → (m : Nat) → Option (List α)
  | 0, _, arr, m => some (arr.take m)
  | left + 1, j, arr, m =>
    match arr[j]? with
    | none => none
    | some x =>
      if p x then
        if m ≤ j then none else rangeLoop left (j + 1) (removeAt arr m j) (m - 1)
      else rangeLoop left (j + 1) arr m

def rangeRemove (l : List α) : Option (List α) := rangeLoop p l.length 0 l l.length

/-- The elements that remain, if `removed` of them are gone already and `last` stands behind the
end of the slice. -/
def sweep (last : α) : (removed : Nat) → List α → Option (List α)
  | removed, [] => if p last ∧ 0 < removed then none else some []
  | removed, [x] =>
    if p last ∧ 0 < removed then none else some (if p x then [] else [x])
  | removed, x :: y :: rest =>
    if p x then (sweep last (removed + 1) rest).map (y :: ·)
    else (sweep last removed (y :: rest)).map (x :: ·)

/-- No two elements with `p` stand side by side, and if the last one has it, no other has. -/
def Clean (l : List α) : Prop :=
  l.IsChain (fun x y => ¬ (p x ∧ p y)) ∧
    ∀ last, l.getLast? = some last → p last → ∀ x ∈ l.dropLast, ¬ p x

variable {p} {l : List α} {last : α}

theorem rangeLoop_behind (last : α) : ∀ (k j : Nat) (front : List α), front.length ≤ j →
    rangeLoop p k j (front ++ List.replicate (j - front.length + k) last) front.length =
      if p last ∧ 0 < k then none else some front := by
  intro k
  induction k with
  | zero => simp [rangeLoop]
  | succ k ih =>
    intro j front hj
    have hread : (front ++ List.replicate (j - front.length + (k + 1)) last)[j]? = some last := by
      rw [List.getElem?_append_right hj, List.getElem?_replicate, if_pos (by omega)]
    rw [rangeLoop, hread]
    by_cases hp : p last
    · simp [hp, hj]
    · have hnext := ih (j + 1) front (by omega)
      rw [show j + 1 - front.length + k = j - front.length + (k + 1) by omega] at hnext
      simp [hp, hnext]

theorem removeAt_middle (last : α) (front rest : List α) (x : α) (k : Nat)
    (hlast : (x :: rest).getLast? = some last) :
    removeAt (front ++ x :: rest ++ List.replicate k last) (front.length + (rest.length + 1))
      front.length = front ++ rest ++ List.replicate (k + 1) last := by
  have hinit := (List.dropLast_append_getLast? last hlast).symm
  unfold removeAt
  rw [List.take_left' (by simp), List.eraseIdx_append_of_length_le le_rfl, Nat.sub_self,
    List.eraseIdx_cons_zero]
  congr 1
  rw [hinit, List.append_assoc, List.append_assoc, ← List.append_assoc front,
    List.drop_left' (by simp)]
  rfl

/-- The loop, with what is before the index, the rest of the slice and what is behind its end. -/
theorem rangeLoop_eq (last : α) {n j m : Nat} {a : List α} (rest front : List α) (k : Nat)
    (hlast : ∀ x, rest.getLast? = some x → x = last) (hleft : n = rest.length + k)
    (hj : j = front.length) (harr : a = front ++ rest ++ List.replicate k last)
    (hm : m = front.length + rest.length) :
    rangeLoop p n j a m = (sweep p last k rest).map (front ++ ·) := by
  induction rest using List.twoStepInduction generalizing n j a m k front with
  | nil =>
    have hbehind := rangeLoop_behind (p := p) last k j front hj.ge
    simp_all [sweep]
    split <;> simp
  | singleton x =>
    have hread : a[j]? = some x := by simp [harr, hj]
    rw [hleft, List.length_singleton, Nat.add_comm, rangeLoop, hread]
    by_cases hp : p x
    · have hremove := removeAt_middle x front [] x k rfl
      have hbehind := rangeLoop_behind (p := p) x k (j + 1) front (by omega)
      simp_all [sweep, Nat.add_comm 1 k]
      split <;> simp
    · have hbehind := rangeLoop_behind (p := p) x k (j + 1) (front ++ [x]) (by simp [hj])
      simp_all [sweep]
  | cons_cons x y rest ih ih' =>
    have hread : a[j]? = some x := by simp [harr, hj]
    rw [hleft, List.length_cons, Nat.add_right_comm, rangeLoop, hread, sweep]
    by_cases hp : p x
    · have hremove := removeAt_middle last front (y :: rest) x k (by
        exact congrArg some (hlast _ (List.getLast?_eq_some_getLast (by simp))))
      have hnext := ih (n := (y :: rest).length + k) (j := j + 1) (m := m - 1)
        (a := removeAt a m j) (front ++ [y]) (k + 1) (fun z hz => hlast z (by
          simp [List.getLast?_cons, hz])) (by simp; omega) (by simp [hj])
        (by rw [harr, hm, hj, List.length_cons, hremove]; simp) (by simp [hm]; omega)
      simp only [hp, if_true, if_neg (show ¬ m ≤ j by simp [hm, hj]), hnext, Option.map_map]
      simp [Function.comp_def]
    · have hnext := ih' y (n := (y :: rest).length + k) (j := j + 1) (m := m) (a := a)
        (front ++ [x]) k (fun z hz => hlast z (by rwa [List.getLast?_cons_cons])) rfl (by simp [hj])
        (by simp [harr]) (by simp [hm]; omega)
      simp only [hp, Bool.false_eq_true, if_false, hnext, Option.map_map]
      simp [Function.comp_def]

/-- `Clean` for the rest of a slice. -/
def CleanFrom (p : α → Bool) (last : α) (k : Nat) (rest : List α) : Prop :=
  rest.IsChain (fun x y => ¬ (p x ∧ p y)) ∧ (p last → k = 0 ∧ ∀ x ∈ rest.dropLast, ¬ p x)

theorem sweep_of_clean (rest : List α) (k : Nat) (h : CleanFrom p last k rest) :
    sweep p last k rest = some (rest.filter (!p ·)) := by
  induction rest using List.twoStepInduction generalizing k with
  | nil => grind [sweep, CleanFrom]
  | singleton x => grind [sweep, CleanFrom]
  | cons_cons x y rest ih ih' =>
    obtain ⟨hchain, hlast⟩ := h
    rw [List.isChain_cons_cons] at hchain
    by_cases hp : p x
    · have hrest := ih (k + 1) ⟨hchain.2.tail, by grind⟩
      grind [sweep]
    · have hrest := ih' y k ⟨hchain.2, by grind⟩
      grind [sweep]

theorem clean_of_sweep (rest : List α) (k : Nat) {r : List α} (h : sweep p last k rest = some r)
    (hr : ∀ x ∈ r, ¬ p x) : CleanFrom p last k rest := by
  induction rest using List.twoStepInduction generalizing k r with
  | nil => grind [sweep, CleanFrom]
  | singleton x => grind [sweep, CleanFrom]
  | cons_cons x y rest ih ih' =>
    rw [sweep] at h
    by_cases hp : p x
    · rw [if_pos hp, Option.map_eq_some_iff] at h
      obtain ⟨r', hr', rfl⟩ := h
      obtain ⟨hchain, hlast⟩ := ih (k + 1) hr' (by grind)
      refine ⟨.cons_cons (by grind) (hchain.cons (by grind)), by grind⟩
    · rw [if_neg hp, Option.map_eq_some_iff] at h
      obtain ⟨r', hr', rfl⟩ := h
      obtain ⟨hchain, hlast⟩ := ih' y k hr' (by grind)
      exact ⟨.cons_cons (by grind) hchain, by grind⟩

theorem rangeRemove_concat (init : List α) (last : α) :
    rangeRemove p (init ++ [last]) = sweep p last 0 (init ++ [last]) :=
  (rangeLoop_eq last _ [] 0 (by simp) rfl rfl (by simp) (by simp)).trans (by simp)

theorem clean_concat (init : List α) (last : α) :
    Clean p (init ++ [last]) ↔ CleanFrom p last 0 (init ++ [last]) := by
  simp [Clean, CleanFrom]

theorem rangeRemove_of_clean (h : Clean p l) : rangeRemove p l = some (l.filter (!p ·)) := by
  rcases l.eq_nil_or_concat' with rfl | ⟨init, last, rfl⟩
  · rfl
  · rw [rangeRemove_concat, sweep_of_clean _ _ ((clean_concat init last).mp h)]

/-- The loop leaves exactly the elements without `p` iff the slice is clean. -/
theorem rangeRemove_iff :
    (∃ r, rangeRemove p l = some r ∧ ∀ x, x ∈ r ↔ x ∈ l ∧ ¬ p x) ↔ Clean p l := by
  constructor
  · rintro ⟨r, hr, hexact⟩
    rcases l.eq_nil_or_concat' with rfl | ⟨init, last, rfl⟩
    · simp [Clean]
    · rw [rangeRemove_concat] at hr
      exact (clean_concat init last).mpr (clean_of_sweep _ _ hr fun x hx => ((hexact x).mp hx).2)
  · intro h
    exact ⟨_, rangeRemove_of_clean h, fun x => by simp [List.mem_filter]⟩

/-! ## Removal from a sorted slice -/

theorem sweep_of_forall_not (last : α) (k : Nat) (rest : List α) (h : ∀ x ∈ rest, ¬ p x) :
    sweep p last k rest = if p last ∧ 0 < k then none else some rest := by
  induction rest using List.twoStepInduction generalizing k with
  | nil => rfl
  | singleton x => simp [sweep, h x]
  | cons_cons x y rest _ ih =>
    rw [sweep, if_neg (h x List.mem_cons_self), ih y k fun z hz => h z (List.mem_cons_of_mem _ hz)]
    split <;> rfl

theorem sweep_append_of_forall_not (last : α) (k : Nat) (rest : List α) (front : List α)
    (h : ∀ x ∈ front, ¬ p x) :
    sweep p last k (front ++ rest) = (sweep p last k rest).map (front ++ ·) := by
  induction front with
  | nil => simp
  | cons x front ih =>
    have hnext := ih fun z hz => h z (List.mem_cons_of_mem _ hz)
    have hx : ¬ p x := h x List.mem_cons_self
    cases hrest : front ++ rest with
    | nil =>
      obtain ⟨rfl, rfl⟩ := List.append_eq_nil_iff.mp hrest
      rw [List.cons_append, hrest, sweep, sweep]
      split <;> simp
    | cons y rest' =>
      rw [List.cons_append, hrest, sweep, if_neg hx, ← hrest, hnext, Option.map_map]
      rfl

/-- Every second of a run of elements is passed over, and behind an odd one the next element. -/
theorem sweep_replicate {e : α} (he : p e) (hlast : ¬ p last) (t : Nat) {behind : List α}
    (h : ∀ x ∈ behind, ¬ p x) (k : Nat) :
    sweep p last k (List.replicate t e ++ behind) =
      some (List.replicate (t / 2) e ++ behind) := by
  induction t using Nat.twoStepInduction generalizing k with
  | zero => simp [sweep_of_forall_not last k behind h, hlast]
  | one =>
    cases behind with
    | nil => simp [sweep, he, hlast]
    | cons b behind =>
      have hbehind := sweep_of_forall_not last (k + 1) behind fun z hz =>
        h z (List.mem_cons_of_mem _ hz)
      simp [sweep, he, hbehind, hlast]
  | more t ih _ =>
    rw [List.replicate_succ, List.replicate_succ, List.cons_append, List.cons_append, sweep,
      if_pos he, ih, Option.map_some, ← List.cons_append, ← List.replicate_succ]
    congr 3
    omega

/-- At the end of the slice two of them are too many. -/
theorem sweep_replicate_last {e : α} (he : p e) (t k : Nat) :
    sweep p e k (List.replicate t e) = if 0 < k ∨ 2 ≤ t then none else some [] := by
  induction t using Nat.twoStepInduction generalizing k with
  | zero => simp [sweep, he]
  | one => simp [sweep, he]
  | more t ih _ =>
    rw [List.replicate_succ, List.replicate_succ, sweep, if_pos he, ih]
    simp

section

variable {α : Type} [LinearOrder α] {l : List α}

theorem eq_append_of_sorted (h : l.Pairwise (· ≤ ·)) (e : α) :
    l = l.filter (· < e) ++ (List.replicate (l.count e) e ++ l.filter (e < ·)) := by
  induction l with
  | nil => rfl
  | cons x l ih =>
    obtain ⟨hx, hl⟩ := List.pairwise_cons.mp h
    have hrest := ih hl
    obtain hlt | rfl | hgt := lt_trichotomy x e
    · rw [List.filter_cons_of_pos (by simpa using hlt), List.count_cons_of_ne hlt.ne,
        List.filter_cons_of_neg (by simpa using hlt.le), List.cons_append, ← hrest]
    · have hnone : l.filter (· < x) = [] := by simpa using hx
      rw [hnone, List.nil_append] at hrest
      rw [List.filter_cons_of_neg (by simp), List.filter_cons_of_neg (by simp), hnone,
        List.count_cons_self, List.nil_append, List.replicate_succ, List.cons_append, ← hrest]
    · have hnone : (x :: l).filter (· < e) = [] := by
        simpa [hgt.le] using fun y hy => hgt.le.trans (hx y hy)
      have hall : (x :: l).filter (e < ·) = x :: l := by
        simpa [hgt] using fun y hy => hgt.trans_le (hx y hy)
      have hcount : (x :: l).count e = 0 := by
        refine List.count_eq_zero.mpr fun hmem => ?_
        obtain rfl | hmem := List.mem_cons.mp hmem
        · exact lt_irrefl _ hgt
        · exact absurd (hx e hmem) hgt.not_ge
      rw [hnone, hall, hcount]
      rfl

/-- What a pass that removes `e` leaves of a sorted slice: half of the copies. -/
def halve (l : List α) (e : α) : List α :=
  l.filter (· < e) ++ (List.replicate (l.count e / 2) e ++ l.filter (e < ·))

theorem count_halve (h : l.Pairwise (· ≤ ·)) (e c : α) :
    (halve l e).count c = l.count c / 2 ^ [e].count c := by
  have hl := congrArg (List.count c) (eq_append_of_sorted h e)
  obtain rfl | hne := eq_or_ne c e
  · have hlt : (l.filter (· < c)).count c = 0 := List.count_eq_zero.mpr (by simp)
    have hgt : (l.filter (c < ·)).count c = 0 := List.count_eq_zero.mpr (by simp)
    simp [halve, hlt, hgt]
  · simp only [List.count_append, List.count_replicate, beq_iff_eq, hne.symm, if_false] at hl
    simp only [halve, List.count_append, List.count_replicate, beq_iff_eq, hne.symm, if_false,
      List.count_singleton, pow_zero, Nat.div_one]
    exact hl.symm

theorem pairwise_halve (h : l.Pairwise (· ≤ ·)) (e : α) : (halve l e).Pairwise (· ≤ ·) := by
  have hsub : (halve l e).Sublist l := by
    conv_rhs => rw [eq_append_of_sorted h e]
    refine .append (.refl _) (.append ?_ (.refl _))
    exact List.replicate_sublist_replicate e |>.mpr (Nat.div_le_self _ _)
  exact h.sublist hsub

/-- A pass panics exactly if `e` stands at the end of the slice more than once. -/
theorem rangeRemove_sorted (h : l.Pairwise (· ≤ ·)) (e : α) :
    rangeRemove (fun c => c = e) l =
      if 2 ≤ l.count e ∧ ∀ c ∈ l, ¬ e < c then none else some (halve l e) := by
  obtain rfl | ⟨init, last, hl⟩ := l.eq_nil_or_concat'
  · simp [rangeRemove, rangeLoop, halve]
  have hle : ∀ c ∈ l, c ≤ last := by
    rw [hl] at h ⊢
    intro c hc
    obtain hc | hc := List.mem_append.mp hc
    · exact (List.pairwise_append.mp h).2.2 c hc last List.mem_cons_self
    · exact (List.mem_singleton.mp hc).le
  have hbefore : ∀ c ∈ l.filter (· < e), ¬ (decide (c = e)) = true := by
    intro c hc
    simpa using (of_decide_eq_true (List.mem_filter.mp hc).2).ne
  have hsweep : rangeRemove (fun c => c = e) l = (sweep (fun c => c = e) last 0
      (List.replicate (l.count e) e ++ l.filter (e < ·))).map (l.filter (· < e) ++ ·) := by
    rw [← sweep_append_of_forall_not last 0 _ _ hbefore, ← eq_append_of_sorted h e, hl,
      rangeRemove_concat]
  rw [hsweep]
  by_cases hlast : last = e
  · have hnone : ∀ c ∈ l, ¬ e < c := fun c hc => hlast ▸ (hle c hc).not_gt
    have hbehind : l.filter (e < ·) = [] := by simpa using fun c hc => not_lt.mp (hnone c hc)
    rw [hbehind, List.append_nil, hlast, sweep_replicate_last (by simp)]
    by_cases htwo : 2 ≤ l.count e
    · rw [if_pos (.inr htwo), if_pos ⟨htwo, hnone⟩]
      rfl
    · have hzero : l.count e / 2 = 0 := by omega
      simp [htwo, halve, hbehind, hzero]
  · have hbehind : ∀ c ∈ l.filter (e < ·), ¬ (decide (c = e)) = true := by
      intro c hc
      simpa using (of_decide_eq_true (List.mem_filter.mp hc).2).ne'
    rw [sweep_replicate (by simp) (by simpa using hlast) _ hbehind, if_neg]
    · rfl
    · rintro ⟨htwo, hnone⟩
      have hmem : e ∈ l := List.count_pos_iff.mp (by omega)
      exact hnone last (by simp [hl]) ((hle e hmem).lt_of_ne fun heq => hlast heq.symm)

/-- All passes: none panics exactly if each class that is still there twice has a greater one
behind it, and each pass halves the copies of its class. -/
theorem foldlM_rangeRemove_sorted (es : List α) : ∀ {l : List α}, l.Pairwise (· ≤ ·) →
    ((∃ l', es.foldlM (fun l e => rangeRemove (fun c => c = e) l) l = some l') ↔
      ∀ before e after, es = before ++ e :: after → 2 ≤ l.count e / 2 ^ before.count e →
        ∃ c, e < c ∧ 0 < l.count c / 2 ^ before.count c) ∧
    ∀ l', es.foldlM (fun l e => rangeRemove (fun c => c = e) l) l = some l' →
      ∀ c, l'.count c = l.count c / 2 ^ es.count c := by
  induction es with
  | nil =>
    intro l _
    refine ⟨iff_of_true ⟨l, rfl⟩ (by simp), fun l' hl' c => ?_⟩
    cases hl'
    simp
  | cons e es ih =>
    intro l hl
    have hpass := rangeRemove_sorted hl e
    have hcount : ∀ (before : List α) (c : α), (halve l e).count c / 2 ^ before.count c =
        l.count c / 2 ^ (e :: before).count c := by
      intro before c
      rw [count_halve hl, Nat.div_div_eq_div_mul, ← pow_add, ← List.count_append,
        List.singleton_append]
    obtain ⟨hruns, hcounts⟩ := ih (pairwise_halve hl e)
    simp only [hcount] at hruns hcounts
    rw [List.foldlM_cons, hpass]
    by_cases hend : 2 ≤ l.count e ∧ ∀ c ∈ l, ¬ e < c
    · rw [if_pos hend]
      refine ⟨iff_of_false (by rintro ⟨l', ⟨⟩⟩) fun hall => ?_, by rintro l' ⟨⟩⟩
      obtain ⟨c, hlt, hpos⟩ := hall [] e es rfl (by simpa using hend.1)
      exact hend.2 c (List.count_pos_iff.mp (by simpa using hpos)) hlt
    · rw [if_neg hend]
      refine ⟨hruns.trans ⟨fun hall before e' after hsplit htwo => ?_,
        fun hall before e' after hsplit => hall (e :: before) e' after (congrArg _ hsplit)⟩,
        hcounts⟩
      cases before with
      | nil =>
        cases hsplit
        by_contra hnone
        refine hend ⟨by simpa using htwo, fun c hc hlt => hnone ⟨c, hlt, ?_⟩⟩
        simpa using hc
      | cons b before =>
        rw [List.cons_append, List.cons.injEq] at hsplit
        obtain ⟨rfl, hsplit⟩ := hsplit
        exact hall before e' after hsplit htwo

end

end

/-! ## The configuration -/

structure ExcludeNodeStorage where
  /-- `NodeFilter.MatchString`. -/
  nodeFilter : String → Bool
  classes : List String

structure StorageConfig where
  clusterStorage : List String
  nodeStorage : List ExcludeNodeStorage

namespace StorageConfig

def sortStrings (l : List String) : List String := l.insertionSort (· ≤ ·)

/-- The checks of `UnmarshalYAML` on what was decoded. -/
def unmarshalYAML (res : StorageConfig) : Except String StorageConfig :=
  match (res.nodeStorage.flatMap (·.classes)).find? (· ∉ res.clusterStorage) with
  | some sc => .error ("storage class \"" ++ sc ++ "\" from exclude references non-existing class")
  | none => .ok {
      clusterStorage := sortStrings res.clusterStorage
      nodeStorage := res.nodeStorage.map fun r => { r with classes := sortStrings r.classes } }

/-- `none` is a panic. -/
def filterOutStorageClasses (cfg : StorageConfig) (available : List String) :
    Option StorageConfig :=
  if cfg.clusterStorage = available then some cfg
  else do
    let requested := cfg.clusterStorage.dedup.filter (· ∈ available)
    let rules ← cfg.nodeStorage.mapM fun rule => do
      let classes ← rangeRemove (fun c => c ∉ requested) rule.classes
      some { rule with classes }
    some { clusterStorage := sortStrings requested, nodeStorage := rules }

def isStorageNodeExcluded (cfg : StorageConfig) (name c : String) : Bool :=
  cfg.nodeStorage.any fun r => r.classes.any fun c' => c' = c && r.nodeFilter name

def hasStorageClass (cfg : StorageConfig) (name : String) : Bool := name ∈ cfg.clusterStorage

/-- The classes of the rules for a node, in order. -/
def excludedClasses (cfg : StorageConfig) (name : String) : List String :=
  (cfg.nodeStorage.filter (·.nodeFilter name)).flatMap (·.classes)

def storageClassesForNode (cfg : StorageConfig) (name : String) : Option (List String) :=
  (cfg.excludedClasses name).foldlM (fun sc eClass => rangeRemove (fun c => c = eClass) sc)
    cfg.clusterStorage

/-- The classes and each rule keep exactly what is available. -/
def FilteredTo (cfg : StorageConfig) (available : List String) (cfg' : StorageConfig) : Prop :=
  (∀ c, c ∈ cfg'.clusterStorage ↔ c ∈ cfg.clusterStorage ∧ c ∈ available) ∧
    List.Forall₂ (fun rule rule' => rule'.nodeFilter = rule.nodeFilter ∧
      ∀ c, c ∈ rule'.classes ↔ c ∈ rule.classes ∧ c ∈ cfg'.clusterStorage)
      cfg.nodeStorage cfg'.nodeStorage

/-- The node gets exactly the classes that are not excluded for it. -/
def NodeExact (cfg : StorageConfig) (name : String) : Prop :=
  ∃ sc, cfg.storageClassesForNode name = some sc ∧
    ∀ c, c ∈ sc ↔ c ∈ cfg.clusterStorage ∧ cfg.isStorageNodeExcluded name c = false

/-- The copies of a class after it was excluded some times, each time half of them. -/
def copies (cfg : StorageConfig) (excluded : List String) (c : String) : Nat :=
  cfg.clusterStorage.count c / 2 ^ excluded.count c

/-- Every excluded class is excluded often enough for its copies, and whenever more than one is left
a greater class is left too. -/
def EnoughRules (cfg : StorageConfig) (name : String) : Prop :=
  (∀ c ∈ cfg.excludedClasses name, cfg.copies (cfg.excludedClasses name) c = 0) ∧
    ∀ before c after, cfg.excludedClasses name = before ++ c :: after →
      2 ≤ cfg.copies before c → ∃ c', c < c' ∧ 0 < cfg.copies before c'

/-- What is to be removed stands clean in every rule. -/
def CleanRules (cfg : StorageConfig) (available : List String) : Prop :=
  cfg.clusterStorage = available ∨ ∀ rule ∈ cfg.nodeStorage,
    Clean (fun c => ¬ (c ∈ cfg.clusterStorage ∧ c ∈ available)) rule.classes

variable {res cfg cfg' : StorageConfig} {available : List String} {name : String}

theorem mem_sortStrings {c : String} {l : List String} : c ∈ sortStrings l ↔ c ∈ l :=
  List.mem_insertionSort (· ≤ ·)

theorem classes_of_unmarshalYAML (h : unmarshalYAML res = .ok cfg) :
    ∀ rule ∈ cfg.nodeStorage, ∀ c ∈ rule.classes, c ∈ cfg.clusterStorage := by
  unfold unmarshalYAML at h
  split at h <;> cases h
  next hnone =>
  simp only [List.find?_eq_none, List.mem_flatMap, decide_eq_true_eq, not_not] at hnone
  intro rule hrule c hc
  obtain ⟨r, hr, rfl⟩ := List.mem_map.mp hrule
  exact mem_sortStrings.mpr (hnone c ⟨r, hr, mem_sortStrings.mp hc⟩)

theorem mapM_forall₂_iff {α β : Type} {f : α → Option β} {R : α → β → Prop} (l : List α) :
    (∃ l', l.mapM f = some l' ∧ List.Forall₂ R l l') ↔ ∀ x ∈ l, ∃ y, f x = some y ∧ R x y := by
  induction l with
  | nil => simp
  | cons x l ih =>
    rw [List.forall_mem_cons, ← ih]
    simp only [List.mapM_cons, Option.bind_eq_bind, Option.bind_eq_some_iff, Option.pure_def]
    constructor
    · rintro ⟨_, ⟨y, hy, l', hl', ⟨⟩⟩, hR⟩
      cases hR
      exact ⟨⟨y, hy, ‹_›⟩, l', hl', ‹_›⟩
    · rintro ⟨⟨y, hy, hR⟩, l', hl', hRs⟩
      exact ⟨_, ⟨y, hy, l', hl', rfl⟩, .cons hR hRs⟩

theorem filtered_iff (h : unmarshalYAML res = .ok cfg) :
    (∃ cfg', cfg.filterOutStorageClasses available = some cfg' ∧ FilteredTo cfg available cfg') ↔
      CleanRules cfg available := by
  have hclasses := classes_of_unmarshalYAML h
  unfold filterOutStorageClasses CleanRules
  by_cases heq : cfg.clusterStorage = available
  · rw [if_pos heq]
    refine iff_of_true ⟨cfg, rfl, by grind, ?_⟩ (.inl heq)
    refine List.forall₂_same.mpr fun rule hrule => ⟨rfl, fun c => ?_⟩
    exact ⟨fun hc => ⟨hc, hclasses rule hrule c hc⟩, And.left⟩
  rw [if_neg heq, or_iff_right heq]
  have hmem : ∀ c, c ∈ cfg.clusterStorage.dedup.filter (· ∈ available) ↔
      c ∈ cfg.clusterStorage ∧ c ∈ available := by simp
  have hrule : ∀ rule : ExcludeNodeStorage, (∃ rule', (do
      let classes ← rangeRemove (fun c => c ∉ cfg.clusterStorage.dedup.filter (· ∈ available))
        rule.classes
      some { rule with classes }) = some rule' ∧ rule'.nodeFilter = rule.nodeFilter ∧
        ∀ c, c ∈ rule'.classes ↔ c ∈ rule.classes ∧ c ∈ cfg.clusterStorage ∧ c ∈ available) ↔
      Clean (fun c => ¬ (c ∈ cfg.clusterStorage ∧ c ∈ available)) rule.classes := by
    intro rule
    rw [← rangeRemove_iff]
    simp only [hmem, Option.bind_eq_bind, Option.bind_eq_some_iff]
    constructor
    · rintro ⟨_, ⟨classes, hclasses, ⟨⟩⟩, -, hexact⟩
      exact ⟨classes, hclasses, by simpa using hexact⟩
    · rintro ⟨classes, hclasses, hexact⟩
      exact ⟨_, ⟨classes, hclasses, rfl⟩, rfl, by simpa using hexact⟩
  simp only [← hrule]
  rw [← mapM_forall₂_iff]
  constructor
  · rintro ⟨cfg', hcfg', -, hexact⟩
    obtain ⟨rules, hrules, ⟨⟩⟩ := Option.bind_eq_some_iff.mp hcfg'
    exact ⟨rules, hrules, by simpa only [mem_sortStrings, hmem] using hexact⟩
  · rintro ⟨rules, hrules, hexact⟩
    refine ⟨_, Option.bind_eq_some_iff.mpr ⟨rules, hrules, rfl⟩, ?_, ?_⟩
    · simp [mem_sortStrings]
    · simpa only [mem_sortStrings, hmem] using hexact

theorem pairwise_sortStrings (l : List String) : (sortStrings l).Pairwise (· ≤ ·) :=
  List.pairwise_insertionSort _ l

theorem sorted_of_unmarshalYAML (h : unmarshalYAML res = .ok cfg) :
    cfg.clusterStorage.Pairwise (· ≤ ·) := by
  unfold unmarshalYAML at h
  split at h <;> cases h
  exact pairwise_sortStrings _

theorem sorted_of_filterOut (h : cfg.clusterStorage.Pairwise (· ≤ ·))
    (hfilter : cfg.filterOutStorageClasses available = some cfg') :
    cfg'.clusterStorage.Pairwise (· ≤ ·) := by
  unfold filterOutStorageClasses at hfilter
  split at hfilter
  · cases hfilter
    exact h
  · obtain ⟨rules, -, ⟨⟩⟩ := Option.bind_eq_some_iff.mp hfilter
    exact pairwise_sortStrings _

theorem isStorageNodeExcluded_iff {c : String} :
    cfg.isStorageNodeExcluded name c = true ↔ c ∈ cfg.excludedClasses name := by
  simp only [isStorageNodeExcluded, excludedClasses, List.any_eq_true, Bool.and_eq_true,
    decide_eq_true_eq, List.mem_flatMap, List.mem_filter]
  constructor
  · rintro ⟨rule, hrule, c', hc', rfl, hfilter⟩
    exact ⟨rule, ⟨hrule, hfilter⟩, hc'⟩
  · rintro ⟨rule, ⟨hrule, hfilter⟩, hc⟩
    exact ⟨rule, hrule, c, hc, rfl, hfilter⟩

theorem nodeExact_iff (h : cfg.clusterStorage.Pairwise (· ≤ ·)) (name : String) :
    cfg.NodeExact name ↔ cfg.EnoughRules name := by
  obtain ⟨hruns, hcounts⟩ := foldlM_rangeRemove_sorted (cfg.excludedClasses name) h
  have hmem : ∀ sc, cfg.storageClassesForNode name = some sc →
      ∀ c, c ∈ sc ↔ 0 < cfg.copies (cfg.excludedClasses name) c := by
    intro sc hsc c
    rw [copies, ← hcounts sc hsc c, List.count_pos_iff]
  have hkept : ∀ c, c ∉ cfg.excludedClasses name →
      (0 < cfg.copies (cfg.excludedClasses name) c ↔ c ∈ cfg.clusterStorage) := by
    intro c hc
    rw [copies, List.count_eq_zero.mpr hc, pow_zero, Nat.div_one, List.count_pos_iff]
  constructor
  · rintro ⟨sc, hsc, hexact⟩
    refine ⟨fun c hc => ?_, hruns.mp ⟨sc, hsc⟩⟩
    by_contra hleft
    have hin : c ∈ sc := (hmem sc hsc c).mpr (Nat.pos_of_ne_zero hleft)
    have hnot := ((hexact c).mp hin).2
    rw [isStorageNodeExcluded_iff.mpr hc] at hnot
    cases hnot
  · rintro ⟨hgone, hpasses⟩
    obtain ⟨sc, hsc⟩ := hruns.mpr hpasses
    refine ⟨sc, hsc, fun c => ?_⟩
    rw [hmem sc hsc, ← Bool.not_eq_true, isStorageNodeExcluded_iff]
    by_cases hc : c ∈ cfg.excludedClasses name
    · simp [hgone c hc, hc]
    · simp [hkept c hc, hc]

/-- The classes and rules of an accepted configuration are filtered exactly iff what is to be
removed stands clean.  From the configuration, before and after it was filtered, a node gets
exactly its classes iff the rules exclude each often enough. -/
theorem storage_rules_exact_iff (h : unmarshalYAML res = .ok cfg) :
    ((∃ cfg', cfg.filterOutStorageClasses available = some cfg' ∧ FilteredTo cfg available cfg') ↔
      CleanRules cfg available) ∧
    (∀ name, cfg.NodeExact name ↔ cfg.EnoughRules name) ∧
    ∀ cfg', cfg.filterOutStorageClasses available = some cfg' → ∀ name,
      (cfg'.NodeExact name ↔ cfg'.EnoughRules name) := by
  have hsorted := sorted_of_unmarshalYAML h
  exact ⟨filtered_iff h, nodeExact_iff hsorted, fun cfg' hcfg' =>
    nodeExact_iff (sorted_of_filterOut hsorted hcfg')⟩

/-- Three classes, all of them excluded from the node. -/
def threeClasses : StorageConfig := ⟨["a", "b", "c"], [⟨fun _ => true, ["a", "b", "c"]⟩]⟩

theorem storage_rules_exact_one_gone : unmarshalYAML threeClasses = .ok threeClasses ∧
    (∃ cfg', threeClasses.filterOutStorageClasses ["b", "c"] = some cfg' ∧
      FilteredTo threeClasses ["b", "c"] cfg') ∧ threeClasses.NodeExact "node" := by
  have haccepted : unmarshalYAML threeClasses = .ok threeClasses := rfl
  obtain ⟨hfilter, hnode, -⟩ : (_ ↔ CleanRules threeClasses ["b", "c"]) ∧ _ :=
    storage_rules_exact_iff haccepted
  refine ⟨haccepted, hfilter.mpr (.inr ?_), (hnode "node").mpr ⟨by decide, ?_⟩⟩
  · simp [threeClasses, Clean]
  · intro before c after _ htwo
    have hone : ∀ c, threeClasses.clusterStorage.count c ≤ 1 :=
      fun c => List.nodup_iff_count_le_one.mp (by decide) c
    exact absurd (htwo.trans ((Nat.div_le_self _ _).trans (hone c))) (by decide)

/-- Of two classes that are not available, the second is kept in the rule.  If the last class is
one of them, the loop panics. -/
theorem unavailable_class_kept : unmarshalYAML threeClasses = .ok threeClasses ∧
    (threeClasses.filterOutStorageClasses ["c"]).map (·.nodeStorage.map (·.classes)) =
      some [["b", "c"]] ∧ (threeClasses.filterOutStorageClasses ["b"]).isNone ∧
    (⟨["a", "a"], [⟨fun _ => true, ["a"]⟩]⟩ : StorageConfig).storageClassesForNode "node" = none :=
  ⟨rfl, by decide +kernel, by decide +kernel, by decide +kernel⟩

end StorageConfig

end AkashProvider.Operator
