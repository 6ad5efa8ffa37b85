import Headway.Plan

namespace Headway
open Scalar
variable {α : Type} [Scalar α]

structure Candidate (α : Type) where
  source : PlanSource
  speed : α
  accel : α
deriving Repr

-- A later candidate has to be slower to win, so ties go to the earlier one.
def Candidate.slower (best candidate : Candidate α) : Candidate α :=
  if candidate.speed < best.speed then candidate else best

def chooseCandidate (cruise : Candidate α) (mpc1 mpc2 : Option (Candidate α)) : Candidate α :=
  (mpc1.toList ++ mpc2.toList).foldl Candidate.slower cruise

def futureSpeed (mpc1 mpc2 setpoint : α) : α :=
  lesser (lesser mpc1 mpc2) setpoint

structure Recurrence (α : Type) where
  speed : α
  accel : α
deriving Repr

def Recurrence.advance (seed : Recurrence α) (target : α) : Recurrence α :=
  let step : α := 0.05
  let accel := seed.accel + step / 0.2 * (target - seed.accel)
  ⟨seed.speed + step * (accel + seed.accel) / 2.0, accel⟩

end Headway
