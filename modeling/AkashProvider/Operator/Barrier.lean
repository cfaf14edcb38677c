import AkashProvider.Lib.Run
import Mathlib

/-!
# The barrier of the IP operator

A request enters if the barrier is enabled, which it finds out before it is counted.  The operator
disables the barrier and waits until the counter is zero.  A request that has looked but is not
counted yet enters after that (`request_after_clear`).
-/

namespace AkashProvider.Operator

/-- A request that found the barrier enabled: before `enter` adds it to `active`, before `exit`,
and after. -/
inductive RequestPhase where
  | loaded
  | inside
  | gone
deriving DecidableEq

/-- What the operator did last.  `cleared`: its `waitUntilClear` returned nil. -/
inductive BarrierPhase where
  | serving
  | disabled
  | cleared
deriving DecidableEq

structure Barrier where
  enabled : Bool
  active : BitVec 32
  requests : List RequestPhase
  phase : BarrierPhase

/-- One atomic operation.  Requests are numbered as they find the barrier enabled. -/
inductive BarrierEvent where
  | enable
  | disable
  /-- `enter` loads `enabled`. -/
  | load
  | add (request : Nat)
  | exit (request : Nat)
  /-- `waitUntilClear` loads `active` and finds zero. -/
  | clear

namespace Barrier

def start : Barrier := ⟨false, 0, [], .serving⟩

def step (s : Barrier) : BarrierEvent → Option Barrier
  | .enable => some { s with enabled := true, phase := .serving }
  | .disable => some { s with enabled := false, phase := .disabled }
  | .load => some (if s.enabled then { s with requests := s.requests ++ [.loaded] } else s)
  | .add i =>
    if s.requests[i]? = some .loaded then
      some { s with active := s.active + 1, requests := s.requests.set i .inside }
    else none
  | .exit i =>
    if s.requests[i]? = some .inside then
      some { s with active := s.active - 1, requests := s.requests.set i .gone }
    else none
  | .clear =>
    if s.phase = .disabled ∧ s.active = 0 then some { s with phase := .cleared } else none

/-- After `waitUntilClear` and until `enable` no request is inside. -/
def Excludes (s : Barrier) : Prop := s.phase = .cleared → .inside ∉ s.requests

/-- When the operator finds zero, every request that found the barrier enabled is counted, and
the counter has not wrapped around. -/
def Settled (s : Barrier) (e : BarrierEvent) : Prop :=
  e matches .clear → .loaded ∉ s.requests ∧ s.requests.count .inside < 2 ^ 32

@[grind cases]
structure Inv (s : Barrier) : Prop where
  active : s.active = BitVec.ofNat 32 (s.requests.count .inside)
  off : s.phase ≠ .serving → s.enabled = false
  cleared : s.phase = .cleared → ∀ r ∈ s.requests, r = .gone

theorem Inv.step {s s' : Barrier} {e : BarrierEvent} (h : s.Inv) (hok : s.Settled e)
    (hstep : s.step e = some s') : s'.Inv := by
  obtain ⟨hactive, hoff, hcleared⟩ := h
  cases e with
  | enable | disable =>
    injection hstep with hstep
    subst hstep
    exact ⟨hactive, by simp, by simp⟩
  | load =>
    injection hstep with hstep
    subst hstep
    split
    next hon =>
      have hserving : s.phase = .serving := by grind
      exact ⟨by simpa using hactive, by simp [hserving], by simp [hserving]⟩
    next => exact ⟨hactive, hoff, hcleared⟩
  | add i =>
    obtain ⟨hi, ⟨⟩⟩ := Option.ite_none_right_eq_some.mp hstep
    obtain ⟨hlt, hget⟩ := List.getElem?_eq_some_iff.mp hi
    refine ⟨?_, hoff, fun hphase => ?_⟩
    · simp [hactive, List.count_set hlt, hget, BitVec.ofNat_add]
    · have := hcleared hphase _ (List.mem_of_getElem? hi)
      cases this
  | exit i =>
    obtain ⟨hi, ⟨⟩⟩ := Option.ite_none_right_eq_some.mp hstep
    obtain ⟨hlt, hget⟩ := List.getElem?_eq_some_iff.mp hi
    refine ⟨?_, hoff, fun hphase => ?_⟩
    · obtain ⟨n, hn⟩ := Nat.exists_eq_add_one.mpr
        (List.count_pos_iff.mpr (List.mem_of_getElem? hi))
      have hafter : (s.requests.set i .gone).count .inside = n := by
        simp [List.count_set hlt, hget, hn]
      rw [hactive, hafter, hn, BitVec.ofNat_add]
      exact BitVec.add_sub_cancel _ _
    · have := hcleared hphase _ (List.mem_of_getElem? hi)
      cases this
  | clear =>
    obtain ⟨⟨hphase, hzero⟩, ⟨⟩⟩ := Option.ite_none_right_eq_some.mp hstep
    obtain ⟨hloaded, hlt⟩ := hok rfl
    refine ⟨hactive, fun _ => hoff (by simp [hphase]), fun _ r hr => ?_⟩
    have hnone : s.requests.count .inside = 0 := by
      have hmod := congrArg BitVec.toNat (hactive.symm.trans hzero)
      rw [BitVec.toNat_ofNat, Nat.mod_eq_of_lt hlt] at hmod
      exact hmod
    cases r with
    | loaded => exact absurd hr hloaded
    | inside => exact absurd hr (List.count_eq_zero.mp hnone)
    | gone => rfl

/-- The barrier excludes requests if none of them is between its two operations when the operator
finds the counter at zero. -/
theorem barrier_excludes {s : Barrier} (h : Runs Barrier.step Settled start s) : s.Excludes := by
  have hinv : s.Inv := h.invariant (fun _ _ _ hok hstep hI => hI.step hok hstep)
    ⟨by decide, by decide, by decide⟩
  intro hphase hmem
  cases hinv.cleared hphase _ hmem

/-- A request that came before `disable` and left, and the barrier is clear. -/
theorem clear_after_exit : ∃ s : Barrier,
    [.enable, .load, .add 0, .exit 0, .disable, .clear].foldlM Barrier.step start = some s ∧
      s.phase = .cleared ∧ s.Excludes := by
  have hrun : Runs Barrier.step Settled start ⟨false, 0, [.gone], .cleared⟩ := by
    refine .next (.next (.next (.next (.next (.next (.refl _) .enable ?_ rfl) .load ?_ rfl)
      (.add 0) ?_ rfl) (.exit 0) ?_ rfl) .disable ?_ rfl) .clear ?_ rfl
    all_goals simp [Settled, start]
  exact ⟨_, rfl, rfl, barrier_excludes hrun⟩

/-- The request finds the barrier enabled, the operator disables it and finds the counter at zero,
and then the request is counted and enters. -/
theorem request_after_clear : ∃ s, Runs Barrier.step (fun _ _ => True) start s ∧ ¬ s.Excludes :=
  ⟨_, Runs.of_foldlM [.enable, .load, .disable, .clear, .add 0] _ _ rfl, by
    simp [Excludes, start]⟩

end Barrier

end AkashProvider.Operator
