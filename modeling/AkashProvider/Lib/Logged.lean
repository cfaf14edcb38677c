import Mathlib.Data.List.Basic

/-!
# Computations that call out

A computation makes calls and gets answers, and may end early.  What matters of it
here is the list of its calls, and how it ended.

`Calls P` says that all calls of a computation have a property, with a rule for each way
to build one.  That a call is made, `mem_log_bind` says.
-/

universe u v w

/-- A computation with calls in `ω`, which ends early with an `ε` or with an `α`. -/
structure Logged (ω : Type u) (ε : Type v) (α : Type w) where
  log : List ω
  result : Except ε α

namespace Logged

variable {ω : Type u} {ε : Type v} {α β : Type w}

instance : Monad (Logged ω ε) where
  pure a := ⟨[], .ok a⟩
  bind x f :=
    match x.result with
    | .error e => ⟨x.log, .error e⟩
    | .ok a => ⟨x.log ++ (f a).log, (f a).result⟩

def call (c : ω) (answer : Except ε α) : Logged ω ε α := ⟨[c], answer⟩

def lift (x : Except ε α) : Logged ω ε α := ⟨[], x⟩

/-- Goes on if a condition holds. -/
def require (p : Prop) [Decidable p] (e : ε) : Logged ω ε PUnit.{w + 1} :=
  if p then ⟨[], .ok ⟨⟩⟩ else ⟨[], .error e⟩

def when (p : Prop) [Decidable p] (x : Logged ω ε PUnit.{w + 1}) : Logged ω ε PUnit.{w + 1} :=
  if p then x else pure ⟨⟩

def each {γ : Type*} : List γ → (γ → Logged ω ε PUnit.{w + 1}) → Logged ω ε PUnit.{w + 1}
  | [], _ => pure ⟨⟩
  | c :: cs, f => f c >>= fun _ => each cs f

/-! ## The calls of a computation -/

variable {c : ω} {x : Logged ω ε α}

theorem mem_log_bind {f : α → Logged ω ε β} :
    c ∈ (x >>= f).log ↔ c ∈ x.log ∨ ∃ a, x.result = .ok a ∧ c ∈ (f a).log := by
  obtain ⟨log, result⟩ := x
  cases result with
  | error e => simp [bind]
  | ok a => simp [bind]

@[simp] theorem log_require (p : Prop) [Decidable p] (e : ε) :
    (require p e : Logged ω ε PUnit.{w + 1}).log = [] := by
  simp only [require]
  split <;> rfl

variable {p : Prop}

@[simp] theorem result_require [Decidable p] {e : ε} {u : PUnit.{w + 1}} :
    (require p e : Logged ω ε PUnit.{w + 1}).result = .ok u ↔ p := by
  simp only [require]
  split <;> simp [*]

variable {a : γ} {f : γ → Logged ω ε PUnit.{w + 1}} {l : List γ} {γ : Type*}

theorem mem_log_each_cons (h : c ∈ (f a).log) : c ∈ (each (a :: l) f).log :=
  mem_log_bind.mpr (.inl h)

theorem mem_log_each (hok : ∀ b ∈ l, (f b).result = .ok ⟨⟩) (ha : a ∈ l) (hc : c ∈ (f a).log) :
    c ∈ (each l f).log := by
  induction l with
  | nil => cases ha
  | cons b l ih => grind [mem_log_each_cons, mem_log_bind, each]

/-! ## All calls -/

def Calls (P : ω → Prop) (x : Logged ω ε α) : Prop := ∀ c ∈ x.log, P c

variable {P : ω → Prop}

theorem calls_of_log_eq_nil (h : x.log = []) : x.Calls P := by
  intro c hc
  rw [h] at hc
  cases hc

theorem calls_pure (a : α) : (pure a : Logged ω ε α).Calls P := calls_of_log_eq_nil rfl

theorem calls_lift (x : Except ε α) : (lift x : Logged ω ε α).Calls P := calls_of_log_eq_nil rfl

theorem calls_require (p : Prop) [Decidable p] (e : ε) :
    (require p e : Logged ω ε PUnit.{w + 1}).Calls P :=
  calls_of_log_eq_nil (log_require p e)

theorem calls_call (h : P c) (answer : Except ε α) : (call c answer).Calls P :=
  fun _ hc => List.mem_singleton.mp hc ▸ h

theorem calls_bind {f : α → Logged ω ε β} (hx : x.Calls P)
    (hf : ∀ a, x.result = .ok a → (f a).Calls P) : (x >>= f).Calls P := by
  intro c hc
  rcases mem_log_bind.mp hc with hc | ⟨a, ha, hc⟩
  · exact hx c hc
  · exact hf a ha c hc

theorem calls_when [Decidable p] {x : Logged ω ε PUnit.{w + 1}} (hx : x.Calls P) :
    (when p x).Calls P := by
  simp only [when]
  split
  · exact hx
  · exact calls_pure _

theorem calls_each (hf : ∀ a ∈ l, (f a).Calls P) : (each l f).Calls P := by
  induction l with
  | nil => exact calls_pure _
  | cons a l ih =>
    obtain ⟨ha, hl⟩ := List.forall_mem_cons.mp hf
    exact calls_bind ha fun _ _ => ih hl

end Logged
