import AkashProvider.Migrations.Registry

/-!
# Which versions a migration is pending for

Versions compare by their numeric components, with zeros behind the last one, and the suffix does
not count.  `GetPending` asks for less, or for the same text: a migration from `1.2.0-rc1` is not
pending for `1.2.0`.  A component that is no 64-bit number is read as zero.
-/

namespace AkashProvider.Migrations

/-- A version string, by its pieces. -/
structure Version where
  v : Bool
  parts : List (List Char)
  nonempty : parts ≠ []
  digits : ∀ part ∈ parts, part ≠ [] ∧ ∀ c ∈ part, c.isDigit
  /-- What follows the first `-`. -/
  suffix : Option String

/-- A component as the code reads it. -/
def machineNumber (n : Nat) : Nat := if n < 2 ^ 63 then n else 0

/-- `fmt.Sscanf` reads a numeral that fits, and leaves zero for a larger one. -/
def Scans (sscanf : String → Int) : Prop :=
  ∀ part : List Char, part ≠ [] → (∀ c ∈ part, c.isDigit) →
    sscanf (String.ofList part) = machineNumber (Nat.ofDigitChars 10 part 0)

namespace Version

variable (p f : Version)

def numbers : List Char := ['.'].intercalate p.parts

/-- The text without the `v`. -/
def body : List Char :=
  p.numbers ++ match p.suffix with
    | none => []
    | some suffix => '-' :: suffix.toList

def text : String := String.ofList (if p.v then 'v' :: p.body else p.body)

def component (index : Nat) : Nat := Nat.ofDigitChars 10 (p.parts.getD index []) 0

/-- The components of both are compared from left to right. -/
instance : Preorder Version := Preorder.lift fun p => toLex p.component

/-- The order that the code has: with the components as it reads them. -/
def Below : Prop :=
  toLex (fun index => machineNumber (p.component index)) <
    toLex (fun index => machineNumber (f.component index))

theorem not_mem_part {part : List Char} (hpart : part ∈ p.parts) {c : Char} (hc : ¬ c.isDigit) :
    c ∉ part :=
  fun hmem => hc ((p.digits part hpart).2 c hmem)

/-- The numbers begin with a digit, and hold digits and points only. -/
theorem numbers_shape :
    (∃ c rest, p.numbers = c :: rest ∧ c.isDigit) ∧ ∀ c ∈ p.numbers, c.isDigit ∨ c = '.' := by
  unfold numbers
  have hdigits := p.digits
  cases hparts : p.parts with
  | nil => exact absurd hparts p.nonempty
  | cons part parts =>
    rw [hparts] at hdigits
    clear hparts
    induction parts generalizing part with
    | nil =>
      obtain ⟨hne, hall⟩ := hdigits part (by simp)
      obtain ⟨c, rest, rfl⟩ := List.exists_cons_of_ne_nil hne
      simp_all
    | cons part' parts ih =>
      obtain ⟨hne, hall⟩ := hdigits part (by simp)
      obtain ⟨c, rest, rfl⟩ := List.exists_cons_of_ne_nil hne
      obtain ⟨-, hmem⟩ := ih part' fun x hx => hdigits x (List.mem_cons_of_mem _ hx)
      grind -ring -linarith [List.intercalate_cons_cons]

theorem trimV_of_isDigit {c : Char} (hc : c.isDigit) (rest : List Char) :
    trimV (String.ofList (c :: rest)) = String.ofList (c :: rest) := by
  unfold trimV
  split
  next heq => simp_all
  next => rfl

theorem trimV_text : trimV p.text = String.ofList p.body := by
  obtain ⟨⟨c, rest, hnumbers, hc⟩, -⟩ := p.numbers_shape
  unfold text
  cases p.v with
  | true => simp [trimV]
  | false =>
    rw [body, hnumbers]
    exact trimV_of_isDigit hc _

theorem versionParts_body :
    versionParts (String.ofList p.body) = p.parts.map String.ofList := by
  obtain ⟨⟨c, rest, hnumbers, hc⟩, hmem⟩ := p.numbers_shape
  have hstrip : p.body.takeWhile (· ≠ '-') = p.numbers := by
    unfold body
    rw [List.takeWhile_append_of_pos fun d hd => by
      rw [decide_eq_true_iff]
      rintro rfl
      exact absurd (hmem _ hd) (by decide)]
    cases p.suffix <;> simp
  have htrim : trimV (String.ofList p.numbers) = String.ofList p.numbers := by
    rw [hnumbers]
    exact trimV_of_isDigit hc rest
  rw [versionParts, stripVersionSuffix, String.toList_ofList, hstrip, htrim, Go.split,
    String.toList_ofList, numbers,
    List.splitOn_intercalate '.' (fun part hpart => p.not_mem_part hpart (by decide)) p.nonempty]

theorem body_ne_empty : String.ofList p.body ≠ "" := by
  obtain ⟨⟨c, rest, hnumbers, -⟩, -⟩ := p.numbers_shape
  simp_all [body]

theorem text_ne_empty : p.text ≠ "" := by
  intro hempty
  have htrim := p.trimV_text
  rw [hempty] at htrim
  exact p.body_ne_empty htrim.symm

variable {p f} {sscanf : String → Int}

theorem parseVersionPart_body (hscan : Scans sscanf) (p : Version) (index : Nat) :
    parseVersionPart sscanf (versionParts (String.ofList p.body)) index =
      machineNumber (p.component index) := by
  unfold component
  rw [versionParts_body, parseVersionPart, List.getElem?_map, List.getD_eq_getElem?_getD]
  cases hpart : p.parts[index]? with
  | none => rfl
  | some part =>
    obtain ⟨hne, hdigits⟩ := p.digits part (List.mem_of_getElem? hpart)
    have hwhole : stripVersionSuffix (String.ofList part) = String.ofList part := by
      rw [stripVersionSuffix, String.toList_ofList, List.takeWhile_eq_self_iff.mpr]
      intro c hc
      rw [decide_eq_true_iff]
      rintro rfl
      exact absurd (hdigits _ hc) (by decide)
    simp only [Option.map_some, hwhole]
    exact hscan part hne hdigits

theorem versionLessThan_body (hscan : Scans sscanf) :
    versionLessThan sscanf (String.ofList p.body) (String.ofList f.body) = true ↔ p.Below f := by
  rw [versionLessThan_iff, versionKey, versionKey, toLex_lt_iff]
  simp only [ne_eq, body_ne_empty, not_false_eq_true, true_and, parseVersionPart_body hscan,
    Int.natCast_inj, Int.ofNat_lt]
  rfl

theorem not_below_of_equiv (hle : p ≤ f) (hge : f ≤ p) : ¬ p.Below f := by
  have heq : toLex p.component = toLex f.component := le_antisymm hle hge
  have hcomponent : p.component = f.component := toLex.injective heq
  unfold Below
  rw [hcomponent]
  exact lt_irrefl _

end Version

/-- The selection follows the order exactly for the same text up to the `v`, and for unequal
versions if reading large components as zero does not turn them around.  The order is total. -/
theorem pending_follows_order_iff {sscanf : String → Int} (hscan : Scans sscanf) (p f : Version)
    {all : List Migration} {file : StateFile} {m : Migration} (hm : m ∈ all)
    (hunapplied : m.name ∉ file.load.applied) (hprevious : file.getProviderVersion = p.text)
    (hfrom : m.fromVersion = f.text) :
    ((m ∈ getPending sscanf all file ↔ p ≤ f) ↔
      trimV p.text = trimV f.text ∨ ¬(p ≤ f ∧ f ≤ p) ∧ (p.Below f ↔ p < f)) ∧
    (∀ a b : Version, a ≤ b ∨ b ≤ a) ∧ ∀ a b c : Version, a ≤ b → b ≤ c → a ≤ c := by
  refine ⟨?_, fun a b => le_total (toLex a.component) (toLex b.component), fun a b c => le_trans⟩
  have hpending : m ∈ getPending sscanf all file ↔ p.Below f ∨ trimV p.text = trimV f.text := by
    rw [mem_getPending, hprevious, hfrom, versionMatches, Bool.or_eq_true, decide_eq_true_iff,
      ← Version.versionLessThan_body hscan, p.trimV_text, f.trimV_text]
    simp [hm, hunapplied, Version.text_ne_empty]
  have hsame : trimV p.text = trimV f.text → p ≤ f := by
    intro heq
    rw [p.trimV_text, f.trimV_text] at heq
    have hparts : p.parts = f.parts := by
      refine List.map_injective_iff.mpr (fun _ _ => String.ofList_injective) ?_
      rw [← p.versionParts_body, heq, f.versionParts_body]
    have hcomponent : p.component = f.component := by
      unfold Version.component
      rw [hparts]
    exact (congrArg toLex hcomponent).le
  rw [hpending, lt_iff_le_not_ge]
  by_cases htext : trimV p.text = trimV f.text
  · simp [htext, hsame htext]
  · by_cases hequiv : p ≤ f ∧ f ≤ p
    · have := Version.not_below_of_equiv hequiv.1 hequiv.2
      simp [htext, hequiv, this]
    · grind

def release (suffix : Option String) : Version where
  v := true
  parts := [['1'], ['2'], ['0']]
  nonempty := by decide
  digits := by simp [Char.isDigit]
  suffix := suffix

def releaseMigration : Migration := ⟨"move-hosts", (release none).text⟩

def scanNumber (s : String) : Int :=
  machineNumber (Nat.ofDigitChars 10 (s.toList.takeWhile Char.isDigit) 0)

theorem scanNumber_scans : Scans scanNumber := by
  intro part _ hdigits
  rw [scanNumber, String.toList_ofList, List.takeWhile_eq_self_iff.mpr hdigits]

/-- A migration from the release is pending for the release. -/
theorem pending_follows_order_release :
    releaseMigration ∈ getPending scanNumber [releaseMigration]
      (some ⟨[], (release none).text⟩) :=
  ((pending_follows_order_iff scanNumber_scans (release none) (release none)
    (List.mem_singleton.mpr rfl) List.not_mem_nil rfl rfl).1.mpr (.inl rfl)).mpr le_rfl

/-- It is not for the release candidate, which is not above the release. -/
theorem pending_skips_candidate :
    release (some "rc1") ≤ release none ∧
      releaseMigration ∉ getPending scanNumber [releaseMigration]
        (some ⟨[], (release (some "rc1")).text⟩) :=
  ⟨le_refl (toLex (release none).component), by decide +kernel⟩

end AkashProvider.Migrations
