import Headway.AccelLimits
import Headway.Arbiter
import Headway.CollisionWarning
import Headway.Params
import Headway.RoadMap
import Headway.SpeedSmoother
import Headway.SpeedTargets

-- One cycle of the planner. While the controller is off the plan is the ego itself.
namespace Headway
open Scalar
variable {σ α : Type}

structure PlannerInput (α : Type) where
  time : α
  ego : Ego α
  radar : Radar α
  map : Option (RoadMap α)
  cruiseKph : α
  control : ControlMode
  forceDecel : Bool
  laterAngle : Option α
  phantom : Option (Phantom α)

structure PlannerReport (α : Type) where
  time : α
  enabled : Bool
  mpc1 : MpcReport α
  mpc2 : MpcReport α
  accelLimits : Option (AccelLimits α)
  jerkLimits : Option (JerkLimits α)
  limitDecel : Option α
  targets : SpeedTargets α
  sourceBefore : PlanSource
  sourceChanged : Bool
  warningRaw : Bool
  warning : CollisionWarning α

structure Planner (σ α : Type) where
  params : Params α
  mpc1 : Mpc σ α
  mpc2 : Mpc σ α
  warning : CollisionWarning α
  recurrence : Recurrence α
  source : PlanSource

structure CruiseProfile (α : Type) where
  seed : Recurrence α
  speed : α
  accel : α
  accelLimits : Option (AccelLimits α)
  jerkLimits : Option (JerkLimits α)
  limitDecel : Option α

namespace Planner
variable [Scalar α]

def metresPerSecond (kph : α) : α := kph * (1.0 / 3.6)

def mapTimeout : α := 10.0
def radarTimeout : α := 0.5

def start [Solver σ α] (params : Params α) (solver1 solver2 : σ) :
    Except (ParamsError α) (Planner σ α) := do
  params.check
  return {
    params
    mpc1 := .start 1 solver1 params.mpc
    mpc2 := .start 2 solver2 params.mpc
    warning := .start
    recurrence := ⟨0.0, 0.0⟩
    source := .cruise }

def reconfigure (planner : Planner σ α) (params : Params α) : Except (ParamsError α) (Planner σ α) := do
  params.check
  return { planner with
    params
    mpc1 := { planner.mpc1 with params := params.mpc }
    mpc2 := { planner.mpc2 with params := params.mpc } }

def currentMap (input : PlannerInput α) : Option (RoadMap α) :=
  input.map.filter fun map => map.usable && input.time - map.receivedAt < mapTimeout

def targetsOf (params : Params α) (input : PlannerInput α) : SpeedTargets α :=
  .fuse (metresPerSecond input.cruiseKph) input.ego.speed (currentMap input)
    ⟨params.followLimits, params.limitOffset, params.mode⟩

def leadPullsAway (input : PlannerInput α) : Bool :=
  input.radar.primaryLead.any fun lead =>
    lead.distance < 45.0 && input.ego.speed < lead.filteredSpeed && 0.0 < lead.filteredAccel

-- Both angles are ignored while signalling, and the coming one at low speed as well.
def turnAngles (params : Params α) (input : PlannerInput α) : α × α :=
  if input.ego.signalling then (0.0, 0.0)
  else
    let later := match input.laterAngle with
      | some angle => if 11.0 < input.ego.speed then angle else 0.0
      | none => 0.0
    (input.ego.steeringAngle, later * params.steerRatio)

def narrowedLimits (params : Params α) (input : PlannerInput α) (targets : SpeedTargets α)
    (cruise : AccelLimits α) : AccelLimits α :=
  let (angle, laterAngle) := turnAngles params input
  let limits := cruise.inTurn input.ego.speed angle laterAngle
    ⟨params.steerRatio, params.wheelbase, params.brakeFactor⟩
  let limits := if input.forceDecel then limits.forceDecel else limits
  if targets.turnInRange then
    limits.requireDecel (turnRequiredDecel input.ego.speed targets.curve targets.turnDistance)
  else limits

-- The deceleration for a lower limit ahead, while cruise leads the plan and the ego is too fast.
def limitDecel? (planner : Planner σ α) (input : PlannerInput α) (targets : SpeedTargets α) : Option α :=
  if targets.limitAhead < targets.limit ∧ planner.source = .cruise ∧
      targets.limitAhead < input.ego.speed then
    some (limitAheadDecel input.ego.speed targets.limitAhead targets.aheadDistance)
  else none

-- A pinned deceleration takes the place of the carried acceleration too.
def enabledProfile (planner : Planner σ α) (input : PlannerInput α) (targets : SpeedTargets α) :
    CruiseProfile α :=
  let mode := planner.params.mode
  let cruise := AccelLimits.cruise input.ego.speed (leadPullsAway input) mode
  let jerk := JerkLimits.forMode input.ego.speed mode cruise
  let limitDecel := planner.limitDecel? input targets
  let limits := match limitDecel with
    | some decel => .pinned decel
    | none => narrowedLimits planner.params input targets cruise
  let seed := match limitDecel with
    | some decel => { planner.recurrence with accel := decel }
    | none => planner.recurrence
  let next := smoothSpeed ⟨seed.speed, seed.accel⟩ targets.setpoint limits jerk courseStep
  { seed, speed := greater next.speed 0.0, accel := next.accel, accelLimits := some limits
    jerkLimits := some jerk, limitDecel }

def disabledSeed (params : Params α) (input : PlannerInput α) : Recurrence α :=
  if input.control = .starting then ⟨params.startSpeed, params.startAccel⟩
  else ⟨input.ego.speed, lesser input.ego.accel 0.0⟩

def cruiseProfile (planner : Planner σ α) (input : PlannerInput α) (targets : SpeedTargets α) :
    CruiseProfile α :=
  if input.control.engaged then planner.enabledProfile input targets
  else
    let seed := disabledSeed planner.params input
    ⟨seed, seed.speed, seed.accel, none, none, none⟩

def candidate? (mpc : Mpc σ α) (source : PlanSource) : Option (Candidate α) :=
  if mpc.hasLead then some ⟨source, mpc.speed, mpc.accel⟩ else none

def chosen (planner : Planner σ α) (engaged : Bool) (profile : CruiseProfile α) (mpc1 mpc2 : Mpc σ α) :
    Candidate α :=
  if engaged then
    chooseCandidate ⟨.cruise, profile.speed, profile.accel⟩ (candidate? mpc1 .mpc1)
      (candidate? mpc2 .mpc2)
  else ⟨planner.source, profile.speed, profile.accel⟩

def gateWarning (raw brakePressed : Bool) (control : ControlMode) (whileOff : Bool) : Bool :=
  raw && !brakePressed && (whileOff || control != .off)

def checkCollision (planner : Planner σ α) (input : PlannerInput α) (rearm : Bool)
    (predicted : List α) : CollisionWarning α × Bool :=
  let warning := if rearm then planner.warning.rearm input.time else planner.warning
  match input.radar.primaryLead with
  | some lead =>
      warning.update
        ⟨input.time, input.ego.speed, input.ego.accel, input.ego.signalling, predicted⟩ lead
  | none => (warning, false)

def update [Solver σ α] (planner : Planner σ α) (input : PlannerInput α) :
    Planner σ α × Plan α × PlannerReport α :=
  let engaged := input.control.engaged
  let targets := targetsOf planner.params input
  let profile := planner.cruiseProfile input targets
  let seeded (mpc : Mpc σ α) := mpc.setSeed profile.seed.speed profile.seed.accel
  let (mpc1, report1) :=
    (seeded planner.mpc1).update ⟨input.time, input.ego, input.radar.primaryLead, input.phantom⟩
  let (mpc2, report2) :=
    (seeded planner.mpc2).update ⟨input.time, input.ego, input.radar.secondaryLead, input.phantom⟩
  let chosen := planner.chosen engaged profile mpc1 mpc2
  let (warning, warningRaw) :=
    planner.checkCollision input (report1.newLead || report2.newLead) mpc1.course.egoAccel
  let processingDelay := input.time - input.radar.receivedAt
  let radarDead : Bool := radarTimeout < processingDelay
  let plan : Plan α := {
    cruiseSpeed := profile.speed
    cruiseAccel := profile.accel
    startSpeed := profile.seed.speed
    startAccel := profile.seed.accel
    targetSpeed := chosen.speed
    targetAccel := chosen.accel
    futureSpeed := futureSpeed mpc1.futureSpeed mpc2.futureSpeed targets.setpoint
    hasLead := mpc1.hasLead
    source := chosen.source
    curveSpeed := targets.curve
    slowingAhead := targets.slowingAhead input.ego.speed
    mapUsed := (currentMap input).isSome
    radarValid := !(radarDead || input.radar.hasFault)
    radarCommIssue := input.radar.hasCommIssue
    processingDelay
    collisionWarning :=
      gateWarning warningRaw input.ego.brakePressed input.control planner.params.warnWhileOff }
  let report : PlannerReport α := {
    time := input.time
    enabled := engaged
    mpc1 := report1
    mpc2 := report2
    accelLimits := profile.accelLimits
    jerkLimits := profile.jerkLimits
    limitDecel := profile.limitDecel
    targets
    sourceBefore := planner.source
    sourceChanged := chosen.source != planner.source
    warningRaw
    warning }
  ({ planner with
     mpc1, mpc2, warning
     recurrence := profile.seed.advance chosen.accel
     source := chosen.source },
   plan, report)

end Planner
end Headway
