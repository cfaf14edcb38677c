import Mathlib.Data.List.Basic

/-!
# Routers

A router tries its routes in order.  A route is a handler for some paths and methods, or
a router of its own below a path, with steps that run before its handlers.  A request
goes to the first handler that fits, after the steps of all the routers above it.

`Router.All` says of every handler with the steps before it what `Router.All.route` then
gives for the one that a request is routed to.
-/

universe u v

/-- A part of a path: a text, or anything but nothing. -/
inductive Seg where
  | lit (text : String)
  | var (name : String)

abbrev Vars := List (String × String)

/-- Takes what fits off the front of a path. -/
def Seg.strip : List Seg → List String → Option (Vars × List String)
  | [], path => some ([], path)
  | _ :: _, [] => none
  | .lit text :: segs, part :: path => if part = text then Seg.strip segs path else none
  | .var name :: segs, part :: path =>
    if part = "" then none
    else (Seg.strip segs path).map fun r => ((name, part) :: r.1, r.2)

inductive Routed (μ : Type u) (η : Type v) where
  | found (steps : List μ) (handler : η) (vars : Vars)
  | methodNotAllowed
  | notFound
deriving Repr

namespace Routed

variable {μ : Type u} {η : Type v}

/-- The first one that is found.  A method that did not fit is remembered. -/
def orElse : Routed μ η → Routed μ η → Routed μ η
  | .found steps handler vars, _ => .found steps handler vars
  | .notFound, r => r
  | .methodNotAllowed, .notFound => .methodNotAllowed
  | .methodNotAllowed, r => r

theorem found_of_orElse {r r' : Routed μ η} {steps : List μ} {handler : η} {vars : Vars}
    (h : r.orElse r' = .found steps handler vars) :
    r = .found steps handler vars ∨ r' = .found steps handler vars := by
  cases r with
  | found steps' handler' vars' => exact .inl h
  | notFound => exact .inr h
  | methodNotAllowed =>
    cases r' with
    | found steps' handler' vars' => exact .inr h
    | notFound => cases h
    | methodNotAllowed => cases h

/-- Inside a router with steps, below a path. -/
def within (steps : List μ) (vars : Vars) : Routed μ η → Routed μ η
  | .found steps' handler vars' => .found (steps ++ steps') handler (vars ++ vars')
  | r => r

theorem found_of_within {steps steps' : List μ} {vars vars' : Vars} {r : Routed μ η} {handler : η}
    (h : r.within steps vars = .found steps' handler vars') :
    ∃ steps'' vars'', r = .found steps'' handler vars'' ∧ steps' = steps ++ steps'' := by
  cases r with
  | found steps'' handler' vars'' =>
    cases h
    exact ⟨steps'', vars'', rfl, rfl⟩
  | notFound => cases h
  | methodNotAllowed => cases h

end Routed

/-- Routes in order, with steps in `μ` and handlers in `η`.  No methods means any. -/
inductive Router (μ : Type u) (η : Type v) where
  | empty
  | handle (path : List Seg) (methods : List String) (handler : η) (rest : Router μ η)
  | sub (path : List Seg) (steps : List μ) (inner rest : Router μ η)

namespace Router

variable {μ : Type u} {η : Type v}

def route (method : String) : Router μ η → List String → Routed μ η
  | .empty, _ => .notFound
  | .handle segs methods handler rest, path =>
    let here : Routed μ η := match Seg.strip segs path with
      | some (vars, []) =>
        if methods = [] ∨ method ∈ methods then .found [] handler vars else .methodNotAllowed
      | _ => .notFound
    here.orElse (rest.route method path)
  | .sub segs steps inner rest, path =>
    let here : Routed μ η := match Seg.strip segs path with
      | some (vars, path') => (inner.route method path').within steps vars
      | none => .notFound
    here.orElse (rest.route method path)

/-- Every handler with the steps before it has a property. -/
def All : (List μ → η → Prop) → Router μ η → Prop
  | _, .empty => True
  | P, .handle _ _ handler rest => P [] handler ∧ All P rest
  | P, .sub _ steps inner rest => All (fun steps' => P (steps ++ steps')) inner ∧ All P rest

theorem All.route {r : Router μ η} {method : String} : ∀ {P : List μ → η → Prop}
    {path : List String}, r.All P → ∀ {steps : List μ} {handler : η} {vars : Vars},
    r.route method path = .found steps handler vars → P steps handler := by
  induction r with
  | empty => exact fun _ _ _ _ hroute => by cases hroute
  | handle segs methods handler rest ih =>
    intro P path hall steps handler' vars hroute
    obtain ⟨hhere, hrest⟩ := hall
    rcases Routed.found_of_orElse hroute with hroute | hroute
    all_goals grind
  | sub segs steps inner rest ihinner ihrest =>
    intro P path hall steps' handler vars hroute
    obtain ⟨hinner, hrest⟩ := hall
    rcases Routed.found_of_orElse hroute with hroute | hroute
    · split at hroute
      · obtain ⟨steps'', vars'', hfound, rfl⟩ := Routed.found_of_within hroute
        exact ihinner hinner hfound
      · cases hroute
    · exact ihrest hrest hroute

end Router
