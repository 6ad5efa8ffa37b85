import Headway.Proofs.Mpc.Simulation
import Headway.Proofs.Planner.Run

-- What holds of one instance and two solvers that answer alike holds of the planner around two instances.
namespace Headway
open Scalar
variable {σ τ α : Type} [Scalar α] [Solver σ α] [Solver τ α]

def Planner.seen (view : σ → τ) (planner : Planner σ α) : Planner τ α :=
  { planner with mpc1 := planner.mpc1.seen view, mpc2 := planner.mpc2.seen view }

namespace Planner
variable {view : σ → τ} (simulates : Simulates view)
include simulates

theorem update_seen (planner : Planner σ α) (input : PlannerInput α) :
    (planner.seen view).update input = ((planner.update input).1.seen view,(planner.update input).2) := by
  have primary : ((planner.seen view).seeded input (planner.seen view).mpc1).update (inputOf input .primary) =
      (((planner.seeded input planner.mpc1).update (inputOf input .primary)).1.seen view,
        ((planner.seeded input planner.mpc1).update (inputOf input .primary)).2) :=
    Mpc.update_seen simulates (planner.seeded input planner.mpc1) (inputOf input .primary)
  have secondary : ((planner.seen view).seeded input (planner.seen view).mpc2).update (inputOf input .secondary) =
      (((planner.seeded input planner.mpc2).update (inputOf input .secondary)).1.seen view,
        ((planner.seeded input planner.mpc2).update (inputOf input .secondary)).2) :=
    Mpc.update_seen simulates (planner.seeded input planner.mpc2) (inputOf input .secondary)
  unfold seeded profileOf inputOf at primary secondary
  unfold update
  dsimp only at primary secondary ⊢
  rw [primary,secondary]
  rfl

theorem step_seen (planner : Planner σ α) (step : Step α) :
    (planner.seen view).step step = (planner.step step).seen view := by
  cases step with
  | reconfigure params =>
    change (planner.seen view).adopt params = (planner.adopt params).seen view
    unfold adopt reconfigure
    cases params.check with
    | error refused => rfl
    | ok accepted => rfl
  | cycle input => exact congrArg Prod.fst (update_seen simulates planner input)

theorem through_seen (planner : Planner σ α) (steps : List (Step α)) :
    (planner.seen view).through steps = (planner.through steps).seen view := by
  induction steps generalizing planner with
  | nil => rfl
  | cons step rest ih =>
    change ((planner.seen view).step step).through rest = _
    rw [step_seen simulates]
    exact ih (planner.step step)

end Planner
end Headway
