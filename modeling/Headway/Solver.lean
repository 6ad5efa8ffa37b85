import Headway.Decimal
import Headway.LeadGeometry

-- What an optimiser may be asked and may answer. Asking changes its own state and nothing else.
namespace Headway
open Scalar
variable {α : Type}

structure Weights (α : Type) where
  timeToCollision : α
  distance : α
  accel : α
  jerk : α
deriving Repr, BEq

def Weights.standard [Scalar α] : Weights α := ⟨5.0, 0.1, 10.0, 20.0⟩

def Weights.standardAt [Scalar α] (distance : α) : Weights α :=
  { Weights.standard with distance }

structure Instant (α : Type) where
  egoPosition : α
  egoSpeed : α
  egoAccel : α
  leadPosition : α
  leadSpeed : α
deriving Repr

def Instant.rest [Scalar α] : Instant α := ⟨0.0, 0.0, 0.0, 0.0, 0.0⟩

-- A solver from outside may answer with sequences of any lengths.
structure Trajectory (α : Type) where
  egoPosition : List α
  egoSpeed : List α
  egoAccel : List α
  leadPosition : List α
  leadSpeed : List α
  cost : α
deriving Repr

namespace Trajectory

def none [Scalar α] : Trajectory α := ⟨[], [], [], [], [], 0.0⟩

def length (course : Trajectory α) : Nat :=
  min course.egoPosition.length (min course.egoSpeed.length (min course.egoAccel.length
    (min course.leadPosition.length course.leadSpeed.length)))

def instant? (course : Trajectory α) (i : Nat) : Option (Instant α) := do
  return ⟨← course.egoPosition[i]?, ← course.egoSpeed[i]?, ← course.egoAccel[i]?,
    ← course.leadPosition[i]?, ← course.leadSpeed[i]?⟩

def ofInstants (points : List (Instant α)) (cost : α) : Trajectory α :=
  ⟨points.map (·.egoPosition), points.map (·.egoSpeed), points.map (·.egoAccel),
   points.map (·.leadPosition), points.map (·.leadSpeed), cost⟩

end Trajectory

def courseStep [Scalar α] : α := 0.2

def courseLength : Nat := 21

structure Problem (α : Type) where
  seed : Instant α
  leadAccel : α
  leadDecay : α
  gap : α
deriving Repr

structure Solution (α : Type) where
  course : Trajectory α
  iterations : Nat
deriving Repr

inductive SolverFault (α : Type) where
  | failed (reason : String)
  | notFinite (problem : Problem α)
  | shortCourse (expected found : Nat)
  | overrun (took budget : α)
deriving Repr

namespace SolverFault
open Decimal

def instantText (x : Instant Float) : String :=
  s!"MpcState \x7b x_ego: {Layout.field.text x.egoPosition}, v_ego: {Layout.field.text x.egoSpeed}, "
    ++ s!"a_ego: {Layout.field.text x.egoAccel}, x_lead: {Layout.field.text x.leadPosition}, "
    ++ s!"v_lead: {Layout.field.text x.leadSpeed} \x7d"

def message : SolverFault Float → String
  | .failed reason => s!"The solver failed: {reason}"
  | .notFinite problem =>
      s!"The solver failed: non-finite seed: {instantText problem.seed}, "
        ++ s!"a_lead = {Layout.plain.text problem.leadAccel}, "
        ++ s!"tau = {Layout.plain.text problem.leadDecay}, tr = {Layout.plain.text problem.gap}"
  | .shortCourse expected found =>
      s!"The solver returned {found} trajectory points, expected at least {expected}"
  | .overrun took budget =>
      s!"The solve took {fixed 4 took} s, over the {fixed 4 budget} s budget"

end SolverFault

structure Solve (α : Type) where
  outcome : Except (SolverFault α) (Solution α)
  took : α

class Solver (σ : Type) (α : outParam Type) where
  restart : Weights α → σ → σ
  reweigh : Weights α → σ → σ
  prime : α → LeadGeometry α → α → σ → σ
  solve : Problem α → σ → Solve α × σ

end Headway
