import Headway.Solver

namespace Headway
variable {α σ : Type}

inductive SolverCall (α : Type) where
  | restart (weights : Weights α)
  | reweigh (weights : Weights α)
  | prime (egoSpeed : α) (lead : LeadGeometry α) (leadDecay : α)
  | solve (problem : Problem α)
deriving Repr

structure Recorder (σ α : Type) where
  solver : σ
  calls : List (SolverCall α)

namespace Recorder

def start (solver : σ) : Recorder σ α := ⟨solver, []⟩

def forget (recorder : Recorder σ α) : Recorder σ α := { recorder with calls := [] }

instance [Solver σ α] : Solver (Recorder σ α) α where
  restart weights r := ⟨Solver.restart weights r.solver, r.calls ++ [.restart weights]⟩
  reweigh weights r := ⟨Solver.reweigh weights r.solver, r.calls ++ [.reweigh weights]⟩
  prime speed lead decay r :=
    ⟨Solver.prime speed lead decay r.solver, r.calls ++ [.prime speed lead decay]⟩
  solve problem r :=
    let (answer, solver) := Solver.solve problem r.solver
    (answer, ⟨solver, r.calls ++ [.solve problem]⟩)

end Recorder
end Headway
