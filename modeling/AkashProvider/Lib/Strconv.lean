import Mathlib

/-!
# Splitting strings and decimal numerals

The parts of Go's `strings` and `strconv` that conversions rest on.  `parseUint` returns a value
next to its error, as `ParseUint` does: zero for text that is no numeral, the largest value for
one out of range.  A formatted number is read back (`parseUint_formatUint`).
-/

namespace Go

/-! ## Splitting -/

/-- `strings.Split(s, sep)` for a separator of one character. -/
def split (s : String) (sep : Char) : List String :=
  (s.toList.splitOn sep).map String.ofList

theorem split_intercalate {parts : List String} {sep : Char} (hne : parts ≠ [])
    (h : ∀ part ∈ parts, sep ∉ part.toList) :
    split ((String.singleton sep).intercalate parts) sep = parts := by
  rw [split, String.toList_intercalate, String.toList_singleton, List.splitOn_intercalate]
  · simp
  · simpa using h
  · simpa using hne

section

variable {α : Type*} {a : α} {x₁ x₂ z₁ z₂ : List α}

theorem append_cons_inj_left (h₁ : a ∉ x₁) (h₂ : a ∉ x₂)
    (h : x₁ ++ a :: z₁ = x₂ ++ a :: z₂) : x₁ = x₂ ∧ z₁ = z₂ := by
  induction x₁ generalizing x₂ with
  | nil =>
    cases x₂ with
    | nil => exact ⟨rfl, (List.cons.inj h).2⟩
    | cons b x₂ => exact absurd (List.mem_cons.mpr (.inl (List.cons.inj h).1)) h₂
  | cons b x₁ ih =>
    cases x₂ with
    | nil => exact absurd (List.mem_cons.mpr (.inl (List.cons.inj h).1.symm)) h₁
    | cons c x₂ => grind

end

theorem prefix_of_eq_append {k p t : String} (h : k = p ++ t) : p.toList <+: k.toList := by simp_all

theorem prefix_or_prefix_of_append_eq {p q s t : String} (h : p ++ s = q ++ t) :
    p.toList <+: q.toList ∨ q.toList <+: p.toList :=
  List.prefix_or_prefix_of_prefix (prefix_of_eq_append rfl) (prefix_of_eq_append h)

/-! ## Lower case

`strings.ToLower` is `String.toLower` on ASCII text. -/

theorem toList_toLower (s : String) : s.toLower.toList = s.toList.map Char.toLower :=
  String.toList_map

theorem toLower_append (s t : String) : (s ++ t).toLower = s.toLower ++ t.toLower :=
  String.toList_inj.mp (by simp only [toList_toLower, String.toList_append, List.map_append])

theorem mem_of_mem_toLower {s : String} {sep : Char} (hsep : ¬ sep.isLower)
    (h : sep ∈ s.toLower.toList) : sep ∈ s.toList := by
  rw [toList_toLower] at h
  obtain ⟨c, hc, rfl⟩ := List.mem_map.mp h
  rw [Char.isLower_toLower_eq_isAlpha, Char.isAlpha, Bool.or_eq_true, not_or] at hsep
  rwa [Char.toLower_eq_of_not_isUpper hsep.1]

/-! ## Numerals -/

/-- The two errors of `strconv.ParseUint`. -/
inductive NumError where
  | syntaxError
  | rangeError
deriving DecidableEq

/-- `strconv.FormatUint(n, 10)`. -/
def formatUint (n : UInt64) : String := String.ofList (Nat.toDigits 10 n.toNat)

/-- `strconv.ParseUint(s, 10, 64)`. -/
def parseUint (s : String) : UInt64 × Option NumError :=
  let cs := s.toList
  if cs = [] ∨ ¬ cs.all Char.isDigit then (0, some .syntaxError)
  else
    let n := Nat.ofDigitChars 10 cs 0
    if n < 2 ^ 64 then (UInt64.ofNat n, none) else (UInt64.ofNat (2 ^ 64 - 1), some .rangeError)

/-- `strconv.ParseInt(s, 10, 64)`, without the value that comes with an error. -/
def parseInt (s : String) : Option Int :=
  let (negative, cs) := match s.toList with
    | '-' :: cs => (true, cs)
    | '+' :: cs => (false, cs)
    | cs => (false, cs)
  if cs = [] ∨ ¬ cs.all Char.isDigit then none
  else
    let n : Int := Nat.ofDigitChars 10 cs 0
    let n := if negative then -n else n
    if -2 ^ 63 ≤ n ∧ n < 2 ^ 63 then some n else none

theorem toList_formatUint (n : UInt64) : (formatUint n).toList = Nat.toDigits 10 n.toNat := by
  simp [formatUint]

theorem isDigit_of_mem_formatUint {n : UInt64} {c : Char} (h : c ∈ (formatUint n).toList) :
    c.isDigit := by
  rw [toList_formatUint] at h
  exact Nat.isDigit_of_mem_toDigits (by decide) (by decide) h

theorem parseUint_formatUint (n : UInt64) : parseUint (formatUint n) = (n, none) := by
  have hdigits : (Nat.toDigits 10 n.toNat).all Char.isDigit = true := by
    rw [List.all_eq_true, ← toList_formatUint]
    exact fun c hc => isDigit_of_mem_formatUint hc
  have hlt : n.toNat < 2 ^ 64 := n.toNat_lt
  simp_all [parseUint, toList_formatUint, Nat.ofDigitChars_ten_toDigits]

theorem parseInt_formatUint {n : UInt64} (h : n.toNat < 2 ^ 63) :
    parseInt (formatUint n) = some (n.toNat : Int) := by
  have hdigit : ∀ c ∈ Nat.toDigits 10 n.toNat, c.isDigit := by
    intro c hc
    rw [← toList_formatUint] at hc
    exact isDigit_of_mem_formatUint hc
  have hall : (Nat.toDigits 10 n.toNat).all Char.isDigit = true := List.all_eq_true.mpr hdigit
  have hvalue : Nat.ofDigitChars 10 (Nat.toDigits 10 n.toNat) 0 = n.toNat :=
    Nat.ofDigitChars_ten_toDigits
  have hne : Nat.toDigits 10 n.toNat ≠ [] := Nat.toDigits_ne_nil
  simp only [parseInt, toList_formatUint]
  grind

theorem formatUint_injective : Function.Injective formatUint := by
  intro m n h
  grind [parseUint_formatUint]

end Go
