import Headway.Solver

-- Past the last answer it lets the ego hold its speed behind a lead far ahead.
namespace Headway
open Scalar
variable {α : Type} [Scalar α]

def Trajectory.ramp (speed accel space : α) : Trajectory α :=
  .ofInstants ((List.range courseLength).map fun i =>
    let t := ofNat i * courseStep
    let v := speed + accel * t
    let x := speed * t + 0.5 * accel * t * t
    ⟨x, v, accel, x + space, v⟩) 0.0

structure Scripted (α : Type) where
  answers : List (Except (SolverFault α) (Solution α))
  solveTime : α

instance : Solver (Scripted α) α where
  restart _ solver := solver
  reweigh _ solver := solver
  prime _ _ _ solver := solver
  solve problem solver :=
    match solver.answers with
    | answer :: rest => (⟨answer, solver.solveTime⟩, { solver with answers := rest })
    | [] => (⟨.ok ⟨.ramp problem.seed.egoSpeed 0.0 50.0, 1⟩, solver.solveTime⟩, solver)

end Headway
