import Headway.Decimal
import Headway.Mpc

namespace Headway
open Scalar
variable {α : Type}

structure Params (α : Type) where
  mode : DriveMode
  followLimits : Bool
  limitOffset : α
  warnWhileOff : Bool
  brakeFactor : α
  steerRatio : α
  wheelbase : α
  startAccel : α
  startSpeed : α
  mpc : MpcParams α
deriving Repr

def MpcParams.standard [Scalar α] : MpcParams α := ⟨none, false, false, 0.02⟩

def Params.standard [Scalar α] : Params α where
  mode := .standard
  followLimits := true
  limitOffset := 0.0
  warnWhileOff := false
  brakeFactor := 1.0
  steerRatio := 15.74
  wheelbase := 2.70
  startAccel := 0.0
  startSpeed := 0.3
  mpc := .standard

inductive ParamsError (α : Type) where
  | notPositive (name : String) (found : α)
  | notFinite
  | negativeStartSpeed (found : α)
  | gapOutOfRange (found : α)
deriving Repr

def ParamsError.message : ParamsError Float → String
  | .notPositive name found => s!"{name} must be positive, found {Decimal.Layout.plain.text found}"
  | .notFinite => "speed_limit_offset_ms and start_accel_mss must be finite"
  | .negativeStartSpeed found =>
      s!"min_can_speed_ms must not be negative, found {Decimal.Layout.plain.text found}"
  | .gapOutOfRange found =>
      s!"mpc.following_distance_s must be in (0, 10] s, found {Decimal.Layout.plain.text found}"

namespace Params
variable [Scalar α]

def positives (params : Params α) : List (String × α) :=
  [("brake_factor", params.brakeFactor), ("steer_ratio", params.steerRatio),
   ("wheelbase_m", params.wheelbase), ("mpc.solver_budget_s", params.mpc.solverBudget)]

-- Each test is written so that what is not a number fails it.
def check (params : Params α) : Except (ParamsError α) Unit :=
  match params.positives.find? fun (_, value) => !(0.0 < value && isFinite value) with
  | some (name, value) => .error (.notPositive name value)
  | none =>
      if !(isFinite params.limitOffset && isFinite params.startAccel) then .error .notFinite
      else if !(0.0 ≤ params.startSpeed) then .error (.negativeStartSpeed params.startSpeed)
      else
        match params.mpc.followingGap with
        | some gap => if 0.0 < gap ∧ gap ≤ 10.0 then .ok () else .error (.gapOutOfRange gap)
        | none => .ok ()

end Params
end Headway
