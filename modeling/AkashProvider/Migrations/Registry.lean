import AkashProvider.Lib.Strconv

/-!
# Migrations of the provider

A start runs the migrations that are pending, going by two facts in the state file: the names that
were applied, and the version started last.  The version is written whatever became of the
migrations, so one that failed may be pending no more (`pending_after_failure_iff`).
-/

namespace AkashProvider.Migrations

/-! ## Versions -/

section

-- the number that `fmt.Sscanf` with `%d` leaves, zero if it finds none
variable (sscanf : String → Int)

def trimV (s : String) : String :=
  match s.toList with
  | 'v' :: rest => String.ofList rest
  | _ => s

def stripVersionSuffix (s : String) : String := String.ofList (s.toList.takeWhile (· ≠ '-'))

def parseVersionPart (parts : List String) (index : Nat) : Int :=
  match parts[index]? with
  | none => 0
  | some part => sscanf (stripVersionSuffix part)

def lessFrom (p q : Nat → Int) : Nat → Nat → Bool
  | _, 0 => false
  | i, left + 1 =>
    if p i < q i then true
    else if p i > q i then false
    else lessFrom p q (i + 1) left

def versionParts (v : String) : List String := Go.split (trimV (stripVersionSuffix v)) '.'

def versionLessThan (v1 v2 : String) : Bool :=
  if v1 = "" then false
  else if v2 = "" then false
  else
    let v1Parts := versionParts v1
    let v2Parts := versionParts v2
    lessFrom (parseVersionPart sscanf v1Parts) (parseVersionPart sscanf v2Parts) 0
      (max v1Parts.length v2Parts.length)

/-- The test in `GetPending`. -/
def versionMatches (previousVersion fromVersion : String) : Bool :=
  versionLessThan sscanf (trimV previousVersion) (trimV fromVersion) ||
    trimV previousVersion = trimV fromVersion

end

/-! ## The state file -/

/-- `LastRun` is written, and nothing reads it. -/
structure State where
  applied : List String
  providerVersion : String

abbrev StateFile := Option State

namespace StateFile

def load (file : StateFile) : State := file.getD ⟨[], ""⟩

def isApplied (file : StateFile) (name : String) : Bool := (load file).applied.contains name

def markApplied (file : StateFile) (name : String) : StateFile :=
  if isApplied file name then file
  else some { load file with applied := (load file).applied ++ [name] }

def setProviderVersion (file : StateFile) (version : String) : StateFile :=
  some { load file with providerVersion := version }

def getProviderVersion (file : StateFile) : String := (load file).providerVersion

end StateFile

/-! ## Starts -/

structure Migration where
  name : String
  fromVersion : String
deriving DecidableEq

inductive Entry where
  /-- The command `migrate run`. -/
  | command
  /-- `RunMigrations` by itself. -/
  | registry

structure Start where
  entry : Entry
  version : String
  /-- `GetAll()`.  The registry is a map by name. -/
  registered : List Migration
  distinct : (registered.map (·.name)).Nodup
  /-- The error of `Run`. -/
  run : Migration → Option String

/-- `setCurrentVersionOrDefault`, for the command. -/
def Start.currentVersion (s : Start) : String :=
  match s.entry with
  | .command => if s.version = "" then "0.0.0" else s.version
  | .registry => s.version

section

variable (sscanf : String → Int)

def getPending (all : List Migration) (file : StateFile) : List Migration :=
  let previousVersion := file.getProviderVersion
  let isFreshInstall := previousVersion = ""
  all.filter fun m =>
    !file.isApplied m.name && !(m.fromVersion = "") && !isFreshInstall &&
      versionMatches sscanf previousVersion m.fromVersion

/-- One round of the loop of `RunMigrations`. -/
def runMigration (s : Start) (file : StateFile) (m : Migration) : StateFile :=
  match s.run m with
  | some _ => file
  | none => file.markApplied m.name

def runMigrations (s : Start) (file : StateFile) : StateFile :=
  let pending := getPending sscanf s.registered file
  let file := pending.foldl (runMigration s) file
  if s.currentVersion ≠ "" then file.setProviderVersion s.currentVersion else file

/-- `runMigrations` of the command. -/
def migrateRun (s : Start) (file : StateFile) : StateFile :=
  if file.getProviderVersion = "" then
    (s.registered.foldl (fun file m => file.markApplied m.name) file).setProviderVersion
      s.currentVersion
  else if s.registered = [] then file.setProviderVersion s.currentVersion
  else if getPending sscanf s.registered file = [] then
    file.setProviderVersion s.currentVersion
  else runMigrations sscanf s file

/-- The file after a start.  The migrations that run are those pending before. -/
def start (file : StateFile) (s : Start) : StateFile :=
  match s.entry with
  | .command => migrateRun sscanf s file
  | .registry => runMigrations sscanf s file

end

/-! ## The order of versions -/

variable {sscanf : String → Int}

/-- A version as the sequence of its parts. -/
def versionKey (sscanf : String → Int) (v : String) : Lex (Nat → Int) :=
  toLex (parseVersionPart sscanf (versionParts v))

theorem lessFrom_iff (p q : Nat → Int) : ∀ left i : Nat, lessFrom p q i left = true ↔
    ∃ j, i ≤ j ∧ j < i + left ∧ (∀ k, i ≤ k → k < j → p k = q k) ∧ p j < q j
  | 0, i => by
    constructor
    · intro h
      cases h
    · rintro ⟨j, hle, hlt, -⟩
      omega
  | left + 1, i => by
    unfold lessFrom
    split
    next hlt => exact iff_of_true rfl ⟨i, by omega, by omega, by omega, hlt⟩
    next hge =>
      split
      next hgt =>
        refine iff_of_false (by simp) ?_
        rintro ⟨j, hle, -, hsame, hlt⟩
        rcases Nat.eq_or_lt_of_le hle with rfl | hij
        · omega
        · grind
      next hle =>
        have heq : p i = q i := by omega
        rw [lessFrom_iff p q left (i + 1)]
        constructor
        · rintro ⟨j, hij, hj, hsame, hlt⟩
          refine ⟨j, by omega, by omega, fun k hk hkj => ?_, hlt⟩
          rcases Nat.eq_or_lt_of_le hk with rfl | hk
          · exact heq
          · exact hsame k hk hkj
        · rintro ⟨j, hij, hj, hsame, hlt⟩
          rcases Nat.eq_or_lt_of_le hij with rfl | hij
          · omega
          · exact ⟨j, hij, by omega, fun k hk hkj => hsame k (by omega) hkj, hlt⟩

theorem parseVersionPart_of_le {parts : List String} {index : Nat} (h : parts.length ≤ index) :
    parseVersionPart sscanf parts index = 0 := by
  rw [parseVersionPart, List.getElem?_eq_none h]

theorem toLex_lt_iff (p q : Nat → Int) :
    toLex p < toLex q ↔ ∃ j, (∀ k < j, p k = q k) ∧ p j < q j :=
  Iff.rfl

theorem versionLessThan_iff (v1 v2 : String) : versionLessThan sscanf v1 v2 = true ↔
    v1 ≠ "" ∧ v2 ≠ "" ∧ versionKey sscanf v1 < versionKey sscanf v2 := by
  unfold versionLessThan
  by_cases h1 : v1 = ""
  · simp [h1]
  by_cases h2 : v2 = ""
  · simp [h2]
  rw [if_neg h1, if_neg h2, lessFrom_iff, versionKey, versionKey, toLex_lt_iff]
  simp only [ne_eq, h1, h2, not_false_eq_true, true_and]
  constructor
  · grind
  · rintro ⟨j, hsame, hlt⟩
    refine ⟨j, Nat.zero_le j, ?_, fun k _ hk => hsame k hk, hlt⟩
    -- past both lists the parts are zero
    by_contra hge
    rw [Nat.zero_add, Nat.not_lt, Nat.max_le] at hge
    rw [parseVersionPart_of_le hge.1, parseVersionPart_of_le hge.2] at hlt
    exact absurd hlt (Int.lt_irrefl 0)

theorem versionLessThan_trans {v1 v2 v3 : String} (h12 : versionLessThan sscanf v1 v2 = true)
    (h23 : versionLessThan sscanf v2 v3 = true) : versionLessThan sscanf v1 v3 = true := by
  rw [versionLessThan_iff] at h12 h23 ⊢
  exact ⟨h12.1, h23.2.1, h12.2.2.trans h23.2.2⟩

theorem versionLessThan_irrefl (v : String) : versionLessThan sscanf v v = false := by
  rw [← Bool.not_eq_true, versionLessThan_iff]
  exact fun h => lt_irrefl _ h.2.2

/-- A version that matches is below every version that the other one is below. -/
theorem versionLessThan_of_matches {previous v : String} {m : Migration}
    (hmatches : versionMatches sscanf previous m.fromVersion = true)
    (hless : versionLessThan sscanf (trimV m.fromVersion) (trimV v) = true) :
    versionLessThan sscanf (trimV previous) (trimV v) = true := by
  grind [versionMatches, versionLessThan_trans]

/-! ## What a start does -/

theorem isApplied_iff {file : StateFile} {name : String} :
    file.isApplied name = true ↔ name ∈ file.load.applied := by
  simp [StateFile.isApplied]

theorem mem_applied_markApplied {file : StateFile} {name name' : String} :
    name ∈ (file.markApplied name').load.applied ↔ name ∈ file.load.applied ∨ name = name' := by
  unfold StateFile.markApplied
  split
  next happlied => grind [isApplied_iff]
  next => simp [StateFile.load]

theorem getProviderVersion_markApplied (file : StateFile) (name : String) :
    (file.markApplied name).getProviderVersion = file.getProviderVersion := by
  unfold StateFile.markApplied
  split <;> rfl

@[simp] theorem applied_setProviderVersion (file : StateFile) (version : String) :
    (file.setProviderVersion version).load.applied = file.load.applied :=
  rfl

theorem mem_getPending {all : List Migration} {file : StateFile} {m : Migration} :
    m ∈ getPending sscanf all file ↔ m ∈ all ∧ m.name ∉ file.load.applied ∧ m.fromVersion ≠ "" ∧
      file.getProviderVersion ≠ "" ∧
      versionMatches sscanf file.getProviderVersion m.fromVersion = true := by
  simp [getPending, ← isApplied_iff, and_assoc]

theorem runMigration_foldl (s : Start) : ∀ (pending : List Migration) (file : StateFile),
    let after := pending.foldl (runMigration s) file
    after.getProviderVersion = file.getProviderVersion ∧
      ∀ name, name ∈ after.load.applied ↔ name ∈ file.load.applied ∨
        ∃ m ∈ pending, s.run m = none ∧ m.name = name
  | [], file => by simp
  | m :: pending, file => by
    obtain ⟨hversion, happlied⟩ := runMigration_foldl s pending (runMigration s file m)
    have hversion' : (runMigration s file m).getProviderVersion = file.getProviderVersion := by
      unfold runMigration
      split
      next => rfl
      next => exact getProviderVersion_markApplied file m.name
    refine ⟨hversion.trans hversion', fun name => ?_⟩
    rw [List.foldl_cons, happlied name]
    simp only [List.exists_mem_cons_iff]
    unfold runMigration
    cases hrun : s.run m with
    | some err => simp
    | none =>
      rw [mem_applied_markApplied, or_assoc, eq_comm]
      simp

theorem markAll_foldl : ∀ (all : List Migration) (file : StateFile) (name : String),
    name ∈ (all.foldl (fun file m => file.markApplied m.name) file).load.applied ↔
      name ∈ file.load.applied ∨ ∃ m ∈ all, m.name = name
  | [], file, name => by simp
  | m :: all, file, name => by
    rw [List.foldl_cons, markAll_foldl all, mem_applied_markApplied, or_assoc, eq_comm]
    simp

theorem currentVersion_ne_of_command {s : Start} (h : s.entry = .command) :
    s.currentVersion ≠ "" := by
  unfold Start.currentVersion
  rw [h]
  simp only
  split
  next => decide
  next hne => exact hne

theorem getProviderVersion_start (file : StateFile) (s : Start) :
    (start sscanf file s).getProviderVersion =
      if s.currentVersion ≠ "" then s.currentVersion else file.getProviderVersion := by
  have hruns : (runMigrations sscanf s file).getProviderVersion =
      if s.currentVersion ≠ "" then s.currentVersion else file.getProviderVersion := by
    unfold runMigrations
    split
    next => rfl
    next => exact (runMigration_foldl s _ file).1
  unfold start
  cases hentry : s.entry with
  | registry => exact hruns
  | command =>
    rw [if_pos (currentVersion_ne_of_command hentry)] at hruns ⊢
    simp only [migrateRun]
    split
    next => rfl
    next =>
      split
      next => rfl
      next =>
        split
        next => rfl
        next => exact hruns

/-- The names applied after a start: those before, those of a fresh install through the command, and
those whose run succeeded. -/
theorem mem_applied_start (file : StateFile) (s : Start) (name : String) :
    name ∈ (start sscanf file s).load.applied ↔ name ∈ file.load.applied ∨
      (s.entry = .command ∧ file.getProviderVersion = "" ∧ ∃ m ∈ s.registered, m.name = name) ∨
      ∃ m ∈ getPending sscanf s.registered file, s.run m = none ∧ m.name = name := by
  have hruns : name ∈ (runMigrations sscanf s file).load.applied ↔ name ∈ file.load.applied ∨
      ∃ m ∈ getPending sscanf s.registered file, s.run m = none ∧ m.name = name := by
    rw [← (runMigration_foldl s (getPending sscanf s.registered file) file).2 name]
    unfold runMigrations
    split <;> rfl
  have hfresh : file.getProviderVersion = "" → getPending sscanf s.registered file = [] := by
    intro hempty
    rw [List.eq_nil_iff_forall_not_mem]
    exact fun m hm => (mem_getPending.mp hm).2.2.2.1 hempty
  unfold start
  cases hentry : s.entry with
  | registry => simpa using hruns
  | command =>
    simp only [migrateRun, true_and]
    split
    next hempty =>
      rw [hfresh hempty]
      simpa [hempty] using markAll_foldl s.registered file name
    next hversion =>
      split
      next hnil => simp [hnil, hversion, getPending]
      next =>
        split
        next hnone => simp [hnone, hversion]
        next => simpa [hversion] using hruns

/-! ## Sequences of starts -/

theorem applied_of_starts {file : StateFile} {name : String} (h : name ∈ file.load.applied) :
    ∀ starts : List Start, name ∈ (starts.foldl (start sscanf) file).load.applied := by
  intro starts
  induction starts generalizing file with
  | nil => exact h
  | cons s starts ih => exact ih ((mem_applied_start file s name).mpr (.inl h))

theorem not_pending_of_applied {file : StateFile} {name : String}
    (h : name ∈ file.load.applied) (starts : List Start) {all : List Migration} {m : Migration}
    (hm : m ∈ getPending sscanf all (starts.foldl (start sscanf) file)) : m.name ≠ name := by
  grind [mem_getPending, applied_of_starts]

/-- A migration whose run failed is pending again exactly if the version that was started still
matches it. -/
theorem pending_after_failure_iff {file : StateFile} {s : Start} {m : Migration}
    (hm : m ∈ getPending sscanf s.registered file) (hfails : s.run m ≠ none)
    {all : List Migration} (hall : m ∈ all) :
    m ∈ getPending sscanf all (start sscanf file s) ↔ s.currentVersion = "" ∨
      versionMatches sscanf s.currentVersion m.fromVersion = true := by
  obtain ⟨hreg, hunapplied, hfrom, hversion, hmatches⟩ := mem_getPending.mp hm
  have hunapplied' : m.name ∉ (start sscanf file s).load.applied := by
    rw [mem_applied_start]
    rintro (happlied | ⟨-, hfresh, -⟩ | ⟨m', hm', hruns, hname⟩)
    · exact hunapplied happlied
    · exact hversion hfresh
    · -- no other registered migration has the name
      have hsame := List.inj_on_of_nodup_map s.distinct (mem_getPending.mp hm').1 hreg hname
      rw [hsame] at hruns
      exact hfails hruns
  grind [mem_getPending, getProviderVersion_start, Start.currentVersion]

/-- No start has a lower version than one before it. -/
def NonDecreasing (sscanf : String → Int) (starts : List Start) : Prop :=
  starts.Pairwise fun s s' =>
    versionLessThan sscanf (trimV s'.currentVersion) (trimV s.currentVersion) = false

/-- After starts of versions that are not lower, the version in the file is not lower. -/
theorem providerVersion_not_lower {file : StateFile} {v : String}
    (hfile : versionLessThan sscanf (trimV file.getProviderVersion) (trimV v) = false) :
    ∀ starts : List Start, (∀ s ∈ starts,
        versionLessThan sscanf (trimV s.currentVersion) (trimV v) = false) →
      versionLessThan sscanf (trimV (starts.foldl (start sscanf) file).getProviderVersion)
        (trimV v) = false := by
  intro starts
  induction starts generalizing file with
  | nil => exact fun _ => hfile
  | cons s starts ih =>
    intro hstarts
    obtain ⟨hs, hstarts⟩ := List.forall_mem_cons.mp hstarts
    refine ih ?_ hstarts
    rw [getProviderVersion_start]
    split
    next => exact hs
    next => exact hfile

/-- Of a migration that is pending at a start and fails, that succeeds, and that is registered
when the file gets its first version. -/
theorem migrations_over_starts (sscanf : String → Int) (file : StateFile) (s : Start) :
    (∀ m ∈ getPending sscanf s.registered file, s.run m ≠ none →
      ∀ next : Start, m ∈ next.registered →
        (m ∈ getPending sscanf next.registered (start sscanf file s) ↔ s.currentVersion = "" ∨
          versionMatches sscanf s.currentVersion m.fromVersion = true)) ∧
    (∀ m ∈ getPending sscanf s.registered file, s.run m = none →
      ∀ (between : List Start) (later : Start), ∀ m' ∈ getPending sscanf later.registered
        (between.foldl (start sscanf) (start sscanf file s)), m'.name ≠ m.name) ∧
    (file.getProviderVersion = "" → s.currentVersion ≠ "" → ∀ m ∈ s.registered,
      s.entry = .command ∨
        versionLessThan sscanf (trimV m.fromVersion) (trimV s.currentVersion) = true →
      ∀ (between : List Start) (later : Start), NonDecreasing sscanf (s :: between) →
        m ∉ getPending sscanf later.registered
          (between.foldl (start sscanf) (start sscanf file s))) := by
  refine ⟨?_, ?_, ?_⟩
  · grind [pending_after_failure_iff]
  · intro m hm hruns between later m' hm'
    have happlied : m.name ∈ (start sscanf file s).load.applied :=
      (mem_applied_start file s m.name).mpr (.inr (.inr ⟨m, hm, hruns, rfl⟩))
    exact not_pending_of_applied happlied between hm'
  · intro hfresh hcurrent m hm hwhen between later horder hpending
    rcases hwhen with hentry | hless
    · have happlied : m.name ∈ (start sscanf file s).load.applied :=
        (mem_applied_start file s m.name).mpr (.inr (.inl ⟨hentry, hfresh, m, hm, rfl⟩))
      exact not_pending_of_applied happlied between hpending rfl
    · have hfirst : versionLessThan sscanf
          (trimV (start sscanf file s).getProviderVersion) (trimV s.currentVersion) = false := by
        rw [getProviderVersion_start, if_pos hcurrent]
        exact versionLessThan_irrefl _
      have hlater := providerVersion_not_lower hfirst between (List.pairwise_cons.mp horder).1
      grind [versionLessThan_of_matches, mem_getPending]

def leadingNumber (s : String) : Int :=
  (s.toList.takeWhile Char.isDigit).foldl (fun n c => 10 * n + (c.toNat - '0'.toNat : Nat)) 0

def moveHosts : Migration := ⟨"move-hosts", "1.0.0"⟩

/-- A start with one migration, and the error of its run. -/
def startWith (entry : Entry) (version : String) (error : Option String) : Start where
  entry := entry
  version := version
  registered := [moveHosts]
  distinct := List.nodup_singleton _
  run := fun _ => error

/-- A start of the version before the migration was there. -/
def startBefore : Start where
  entry := .command
  version := "1.0.0"
  registered := []
  distinct := List.nodup_nil
  run := fun _ => none

/-- A migration that fails at the version it is from is pending again, and once it has run at a
later version it is not. -/
theorem migrations_over_starts_retried :
    let file := start leadingNumber none startBefore
    let failed := startWith .command "1.0.0" (some "timeout")
    let done := startWith .command "1.1.0" none
    moveHosts ∈ getPending leadingNumber done.registered (start leadingNumber file failed) ∧
      moveHosts ∉ getPending leadingNumber done.registered
        (start leadingNumber (start leadingNumber file failed) done) := by
  intro file failed done
  have hpending : moveHosts ∈ getPending leadingNumber failed.registered file := by decide +kernel
  have hagain := ((migrations_over_starts leadingNumber file failed).1 moveHosts hpending
    (by decide) done (by decide)).mpr (.inr (by decide +kernel))
  refine ⟨hagain, fun hthird => ?_⟩
  exact (migrations_over_starts leadingNumber (start leadingNumber file failed) done).2.1
    moveHosts hagain rfl [] done moveHosts hthird rfl

/-- A migration that fails while the provider is upgraded is not pending any more.  With
`RunMigrations` alone, one registered at the fresh install runs at the next start. -/
theorem failed_migration_lost :
    let file := start leadingNumber none startBefore
    let failed := startWith .command "1.1.0" (some "timeout")
    let next := startWith .command "1.1.0" none
    moveHosts ∈ getPending leadingNumber failed.registered file ∧ failed.run moveHosts ≠ none ∧
      NonDecreasing leadingNumber [startBefore, failed, next] ∧
      getPending leadingNumber next.registered (start leadingNumber file failed) = [] ∧
      getPending leadingNumber next.registered
        (start leadingNumber none (startWith .registry "1.0.0" none)) = [moveHosts] := by
  unfold NonDecreasing
  decide +kernel

end AkashProvider.Migrations
