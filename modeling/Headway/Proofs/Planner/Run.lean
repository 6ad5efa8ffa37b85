import Headway.Planner.Archived
import Headway.Proofs.Planner.Cycle

-- A planner over a run: cycles, and changes of its parameters between them.
namespace Headway
open Scalar
variable {σ α : Type} [Scalar α]

namespace Planner

inductive Step (α : Type) where
  | reconfigure (params : Params α)
  | cycle (input : PlannerInput α)

-- Parameters that are refused leave the planner as it was.
def adopt (planner : Planner σ α) (params : Params α) : Planner σ α :=
  (planner.reconfigure params).toOption.getD planner

theorem adopt_frame (planner : Planner σ α) (params : Params α) :
    planner.adopt params =
      { planner with
        params := (planner.adopt params).params
        mpc1 := { planner.mpc1 with params := (planner.adopt params).mpc1.params }
        mpc2 := { planner.mpc2 with params := (planner.adopt params).mpc2.params } } := by
  unfold adopt reconfigure
  cases params.check with
  | error refused => rfl
  | ok accepted => rfl

theorem adopt_kept (planner : Planner σ α) (params : Params α) :
    (planner.adopt params).warning = planner.warning ∧
      (planner.adopt params).recurrence = planner.recurrence ∧
      (planner.adopt params).source = planner.source := by
  rw [adopt_frame]
  exact ⟨rfl,rfl,rfl⟩

theorem adopt_solver (planner : Planner σ α) (params : Params α) (side : Side) :
    ((planner.adopt params).mpc side).solver = (planner.mpc side).solver := by
  rw [adopt_frame]
  cases side <;> rfl

theorem adopt_params (planner : Planner σ α) (params : Params α) :
    (planner.adopt params).params = (match params.check with
      | .ok _ => params
      | .error _ => planner.params) := by
  unfold adopt reconfigure
  cases params.check with
  | error refused => rfl
  | ok accepted => rfl

variable [Solver σ α]

def fresh (params : Params α) (primary secondary : σ) : Planner σ α where
  params
  mpc1 := .start 1 primary params.mpc
  mpc2 := .start 2 secondary params.mpc
  warning := .start
  recurrence := ⟨0.0,0.0⟩
  source := .cruise

theorem start_exact {params : Params α} {primary secondary : σ} {planner : Planner σ α} :
    start params primary secondary = .ok planner ↔
      params.check = .ok () ∧ planner = fresh params primary secondary := by
  unfold start
  cases params.check with
  | error refused => exact iff_of_false nofun fun started => nomatch started.1
  | ok accepted =>
    constructor
    · intro started
      cases started
      exact ⟨rfl,rfl⟩
    · rintro ⟨_,rfl⟩
      rfl

def step (planner : Planner σ α) : Step α → Planner σ α
  | .reconfigure params => planner.adopt params
  | .cycle input => (planner.update input).1

def through (planner : Planner σ α) (steps : List (Step α)) : Planner σ α := steps.foldl step planner

-- What a run publishes, oldest first. A change of parameters publishes nothing.
def plans (planner : Planner σ α) : List (Step α) → List (Plan α)
  | [] => []
  | .reconfigure params :: rest => (planner.adopt params).plans rest
  | .cycle input :: rest => (planner.update input).2.1 :: (planner.update input).1.plans rest

theorem through_keeps (property : Planner σ α → Prop) {planner : Planner σ α} {steps : List (Step α)}
    (initial : property planner)
    (kept : ∀ planner, ∀ step ∈ steps, property planner → property (planner.step step)) :
    property (planner.through steps) := by
  induction steps generalizing planner with
  | nil => exact initial
  | cons step rest ih =>
    apply ih (kept planner step (by simp) initial)
    intro planner step member
    exact kept planner step (by simp [member])

end Planner

namespace ArchivedPlanner

def adopt (archived : ArchivedPlanner σ α) (params : Params α) : ArchivedPlanner σ α :=
  (archived.reconfigure params).toOption.getD archived

variable [Solver σ α]

def step (archived : ArchivedPlanner σ α) : Planner.Step α → ArchivedPlanner σ α
  | .reconfigure params => archived.adopt params
  | .cycle input => (archived.update input).1

def states (archived : ArchivedPlanner σ α) : List (Planner.Step α) → List (ArchivedPlanner σ α)
  | [] => []
  | step :: rest => archived.step step :: (archived.step step).states rest

def plans (archived : ArchivedPlanner σ α) : List (Planner.Step α) → List (Plan α)
  | [] => []
  | .reconfigure params :: rest => (archived.adopt params).plans rest
  | .cycle input :: rest => (archived.update input).2.1 :: (archived.update input).1.plans rest

end ArchivedPlanner
end Headway
