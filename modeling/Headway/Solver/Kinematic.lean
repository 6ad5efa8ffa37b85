import Headway.Solver

-- A feedback law rolled forward in place of an optimisation.
namespace Headway
open Scalar
variable {α : Type} [Scalar α]

structure Kinematic (α : Type) where
  weights : Weights α
  restarts : Nat
  primings : Nat
  -- A figure and not a measurement, so that a replay gives the same plans every time.
  solveTime : α
deriving Repr

namespace Kinematic

def start : Kinematic α := ⟨.standard, 0, 0, 1e-6⟩

def stopDistance : α := 4.0
def hardestBraking : α := -3.5
def strongestPull : α := 2.0
def jerkLimit : α := 5.0

def demand (weights : Weights α) (space egoSpeed leadSpeed gap : α) : α :=
  let wanted := stopDistance + gap * egoSpeed
  let gain := 0.05 * (1.0 + weights.distance)
  gain * (space - wanted) + 0.6 * (leadSpeed - egoSpeed)

def nextAccel (weights : Weights α) (gap : α) (now : Instant α) : α :=
  let largestStep := jerkLimit * courseStep
  let wanted := clamp hardestBraking strongestPull
    (demand weights (now.leadPosition - now.egoPosition) now.egoSpeed now.leadSpeed gap)
  now.egoAccel + clamp (-largestStep) largestStep (wanted - now.egoAccel)

def stageCost (weights : Weights α) (gap : α) (now : Instant α) : α :=
  let accel := nextAccel weights gap now
  let jerk := (accel - now.egoAccel) / courseStep
  let space := now.leadPosition - now.egoPosition
  let gapError := space - (stopDistance + gap * now.egoSpeed)
  let closing := greater (now.egoSpeed - now.leadSpeed) 0.0 / greater space 0.1
  courseStep * (weights.distance * gapError * gapError + weights.timeToCollision * closing * closing
    + weights.accel * accel * accel + weights.jerk * jerk * jerk)

def advance (weights : Weights α) (problem : Problem α) (k : Nat) (now : Instant α) : Instant α :=
  let t := ofNat k * courseStep
  let leadAccel := problem.leadAccel * exp (-problem.leadDecay * t * t / 2.0)
  let accel := nextAccel weights problem.gap now
  let speed := now.egoSpeed + accel * courseStep
  let stopped := speed < 0.0
  { egoPosition := now.egoPosition + (now.egoSpeed * courseStep + 0.5 * accel * courseStep * courseStep)
    egoSpeed := if stopped then 0.0 else speed
    egoAccel := if stopped then greater accel 0.0 else accel
    leadPosition := now.leadPosition
      + (now.leadSpeed * courseStep + 0.5 * leadAccel * courseStep * courseStep)
    leadSpeed := greater (now.leadSpeed + leadAccel * courseStep) 0.0 }

def rollout (weights : Weights α) (problem : Problem α) : Nat → Nat → Instant α → List (Instant α)
  | 0, _, now => [now]
  | more + 1, k, now =>
      now :: rollout weights problem more (k + 1) (advance weights problem k now)

def seedFinite (problem : Problem α) : Bool :=
  [problem.seed.egoPosition, problem.seed.egoSpeed, problem.seed.egoAccel, problem.seed.leadPosition,
   problem.seed.leadSpeed, problem.leadAccel, problem.leadDecay, problem.gap].all isFinite

def courseOf (weights : Weights α) (problem : Problem α) : Trajectory α :=
  let seed := { problem.seed with
    egoSpeed := greater problem.seed.egoSpeed 0.0
    leadSpeed := greater problem.seed.leadSpeed 0.0 }
  let points := rollout weights problem (courseLength - 1) 0 seed
  .ofInstants points
    (points.dropLast.foldl (fun cost now => cost + stageCost weights problem.gap now) 0.0)

def answer (solver : Kinematic α) (problem : Problem α) : Solve α :=
  if seedFinite problem then
    ⟨.ok ⟨courseOf solver.weights problem, courseLength - 1⟩, solver.solveTime⟩
  else ⟨.error (.notFinite problem), solver.solveTime⟩

instance : Solver (Kinematic α) α where
  restart weights solver := { solver with weights, restarts := solver.restarts + 1 }
  reweigh weights solver := { solver with weights }
  prime _ _ _ solver := { solver with primings := solver.primings + 1 }
  solve problem solver := (solver.answer problem, solver)

end Kinematic
end Headway
