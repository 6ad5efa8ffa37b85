import Headway.Replay

namespace Headway
open Scalar
variable {α : Type}

structure Summary (α : Type) where
  cruiseTime : α
  mpc1Time : α
  mpc2Time : α
  leastGap : α
  warnings : Nat
  resets1 : Nat
  resets2 : Nat
deriving Repr

namespace Summary
variable [Scalar α]

def start : Summary α := ⟨0.0, 0.0, 0.0, 1.0 / 0.0, 0, 0, 0⟩

def addTime (summary : Summary α) : PlanSource → Summary α
  | .cruise => { summary with cruiseTime := summary.cruiseTime + World.stepTime }
  | .mpc1 => { summary with mpc1Time := summary.mpc1Time + World.stepTime }
  | .mpc2 => { summary with mpc2Time := summary.mpc2Time + World.stepTime }

def counted (n : Nat) (happened : Bool) : Nat := if happened then n + 1 else n

def add (summary : Summary α) (cycle : Cycle α) : Summary α :=
  { summary.addTime cycle.plan.source with
    leastGap :=
      match cycle.after.lead with
      | some lead => lesser summary.leastGap lead.distance
      | none => summary.leastGap
    warnings := counted summary.warnings cycle.plan.collisionWarning
    resets1 := counted summary.resets1 cycle.report.mpc1.reset.isSome
    resets2 := counted summary.resets2 cycle.report.mpc2.reset.isSome }

def ofSteps (steps : List (ReplayStep α)) : Summary α :=
  (steps.filterMap ReplayStep.cycle?).foldl add start

end Summary
end Headway
