import Headway.Planner.Archived
import Headway.Script
import Headway.World

-- A scenario played through the planner until a cycle starts with nothing left of the script.
namespace Headway
variable {σ α : Type} [Scalar α]

structure Cycle (α : Type) where
  before : World α
  plan : Plan α
  report : PlannerReport α
  after : World α

structure Simulation (σ α : Type) where
  world : World α
  planner : ArchivedPlanner σ α
  archives : FileTree (Sheet α)

namespace Simulation

def exec (sim : Simulation σ α) (command : Command α) : Simulation σ α :=
  { sim with world := sim.world.exec command }

def cycle [Solver σ α] (sim : Simulation σ α) : Simulation σ α × Cycle α :=
  let (planner, plan, report, archives) := sim.planner.cycle sim.world.input sim.archives
  let world := sim.world.step plan
  (⟨world, planner, archives⟩, ⟨sim.world, plan, report, world⟩)

def cycles [Solver σ α] : Nat → Simulation σ α → Simulation σ α × List (Cycle α)
  | 0, sim => (sim, [])
  | n + 1, sim =>
      let (sim, first) := sim.cycle
      let (sim, rest) := cycles n sim
      (sim, first :: rest)

end Simulation

inductive ReplayStep (α : Type) where
  | command (world : World α) (command : Command α)
  | cycle (cycle : Cycle α)

namespace ReplayStep

def cycle? : ReplayStep α → Option (Cycle α)
  | .command .. => none
  | .cycle happened => some happened

end ReplayStep

namespace Replay

def execAll (sim : Simulation σ α) (past : List (ReplayStep α)) :
    List (Command α) → Simulation σ α × List (ReplayStep α)
  | [] => (sim, past)
  | command :: rest => execAll (sim.exec command) (.command sim.world command :: past) rest

-- What has happened so far is kept newest first.
def play [Solver σ α] (past : List (ReplayStep α)) :
    Nat → Script α → Simulation σ α → Option (Simulation σ α × List (ReplayStep α))
  | 0, _, _ => none
  | fuel + 1, script, sim =>
      match script.poll sim.world.time with
      | (.finished, _) => some (sim, past.reverse)
      | (.nothing, script) =>
          let (sim, happened) := sim.cycle
          play (.cycle happened :: past) fuel script sim
      | (.commands batch, script) =>
          let (sim, past) := execAll sim past batch
          let (sim, happened) := sim.cycle
          play (.cycle happened :: past) fuel script sim

end Replay
end Headway
