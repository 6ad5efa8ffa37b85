import Headway.Car
import Headway.RoadMap

namespace Headway
open Scalar
variable {α : Type} [Scalar α]

-- The ceiling of a source that does not apply: 200 mph.
def noCeiling : α := 89.408

structure SpeedTargets (α : Type) where
  setpoint : α
  driver : α
  limit : α
  limitAhead : α
  curve : α
  slowingForTurn : Bool
  horizon : α
  turnDistance : α
  aheadDistance : α
deriving Repr

structure LimitSettings (α : Type) where
  follow : Bool
  offset : α
  mode : DriveMode

namespace SpeedTargets

def horizonOf : DriveMode → α
  | .standard => 250.0
  | .sport => 150.0
  | .eco => 350.0

def driverOnly (driver : α) (mode : DriveMode) : SpeedTargets α where
  setpoint := lesser driver noCeiling
  driver
  limit := noCeiling
  limitAhead := noCeiling
  curve := noCeiling
  slowingForTurn := false
  horizon := horizonOf mode
  turnDistance := 0.0
  aheadDistance := 0.0

def slowingAhead (targets : SpeedTargets α) (egoSpeed : α) : Bool :=
  targets.slowingForTurn || targets.limitAhead < lesser targets.limit (egoSpeed + 1.0)

def turnInRange (targets : SpeedTargets α) : Bool :=
  targets.slowingForTurn && targets.turnDistance < targets.horizon

def comfort (radius : α) : α :=
  if 500.0 < radius then 0.7
  else if 250.0 < radius then 2.7 - radius / 250.0
  else 3.0 - 13.0 / 2500.0 * radius

def curveSpeed (curvature : α) : α :=
  let radius := 1.0 / greater (abs curvature) 1e-4
  lesser (sqrt (comfort radius * radius)) noCeiling

def lowLimit : α := 21.0 / 3.6

def rampBounds (egoSpeed ahead horizon : α) : α × α :=
  if ahead < lowLimit then
    let closing := (egoSpeed - ahead) * 3.6 * 2.0
    (if closing < 50.0 then 0.0 else lesser closing 100.0,
     greater (lesser ((egoSpeed - ahead) * 3.6 * 5.0) 300.0) 50.0)
  else (50.0, horizon)

-- From a known limit it is ramped down, so long as the ego stays three metres per second below it.
def rampedLimit (egoSpeed ahead distance rampEnd rampStart : α) : Option α → α
  | some limit =>
      if rampEnd < distance ∧ egoSpeed + 3.0 < ahead + (limit - ahead) * distance / rampStart then
        ahead + (limit - ahead) * (distance - rampEnd) / (rampStart - rampEnd)
      else ahead
  | none => ahead

def withLimitAhead (targets : SpeedTargets α) (egoSpeed : α) (map : RoadMap α) (offset : α) :
    SpeedTargets α :=
  if map.nextLimitKnown ∧ map.nextLimitDistance < targets.horizon then
    let (rampEnd, rampStart) := rampBounds egoSpeed map.nextLimit targets.horizon
    let current := if map.limitKnown then some map.limit else none
    { targets with
      horizon := rampStart
      limitAhead := rampedLimit egoSpeed map.nextLimit map.nextLimitDistance rampEnd rampStart current
        + offset }
  else targets

def fuse (driver egoSpeed : α) (map : Option (RoadMap α)) (settings : LimitSettings α) :
    SpeedTargets α :=
  let alone := driverOnly driver settings.mode
  match map, settings.follow with
  | some map, true =>
      let targets := { alone with
        turnDistance := map.turnDistance
        aheadDistance := map.nextLimitDistance
        limit := if map.limitKnown then map.limit + settings.offset else alone.limit
        curve := if map.curvatureKnown then curveSpeed map.curvature else alone.curve }
      let targets := targets.withLimitAhead egoSpeed map settings.offset
      { targets with
        slowingForTurn := targets.curve < lesser (lesser driver targets.limit) (egoSpeed + 1.0)
        setpoint := lesser (lesser (lesser driver targets.curve) targets.limit) targets.limitAhead }
  | _, _ => alone

end SpeedTargets
end Headway
