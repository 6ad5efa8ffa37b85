import Headway.Scalar

namespace Headway

inductive PlanSource where
  | cruise
  | mpc1
  | mpc2
deriving Repr, DecidableEq

def PlanSource.label : PlanSource → String
  | .cruise => "cruise"
  | .mpc1 => "mpc1"
  | .mpc2 => "mpc2"

structure Plan (α : Type) where
  cruiseSpeed : α
  cruiseAccel : α
  startSpeed : α
  startAccel : α
  targetSpeed : α
  targetAccel : α
  futureSpeed : α
  hasLead : Bool
  source : PlanSource
  curveSpeed : α
  slowingAhead : Bool
  mapUsed : Bool
  radarValid : Bool
  radarCommIssue : Bool
  processingDelay : α
  collisionWarning : Bool
deriving Repr

end Headway
