import Headway.Planner
import Headway.Proofs.Mpc.Cycle
import Headway.Solver.Scripted

-- One cycle taken apart: the cruise side, the two instances seeded from it, and the proposal that is followed.
namespace Headway.Planner
open Scalar
variable {σ α : Type} [Scalar α]

-- A lower limit ahead takes over the cruise side: while cruise leads the plan and the ego is too fast.
def SlowsForLimit (planner : Planner σ α) (input : PlannerInput α) (targets : SpeedTargets α) : Prop :=
  targets.limitAhead < targets.limit ∧ planner.source = .cruise ∧ targets.limitAhead < input.ego.speed

theorem limitDecel?_some {planner : Planner σ α} {input : PlannerInput α} {targets : SpeedTargets α}
    (slows : planner.SlowsForLimit input targets) : planner.limitDecel? input targets =
      some (limitAheadDecel input.ego.speed targets.limitAhead targets.aheadDistance) := if_pos slows

theorem limitDecel?_none {planner : Planner σ α} {input : PlannerInput α} {targets : SpeedTargets α}
    (passes : ¬ planner.SlowsForLimit input targets) : planner.limitDecel? input targets = none :=
  if_neg passes

def profileOf (planner : Planner σ α) (input : PlannerInput α) : CruiseProfile α :=
  planner.cruiseProfile input (targetsOf planner.params input)

theorem profileOf_engaged (planner : Planner σ α) {input : PlannerInput α}
    (engaged : input.control.engaged = true) :
    planner.profileOf input = planner.enabledProfile input (targetsOf planner.params input) :=
  if_pos engaged

theorem enabledProfile_pinned {planner : Planner σ α} {input : PlannerInput α} {targets : SpeedTargets α}
    (slows : planner.SlowsForLimit input targets) : (planner.enabledProfile input targets).seed =
      ⟨planner.recurrence.speed,limitAheadDecel input.ego.speed targets.limitAhead targets.aheadDistance⟩ := by
  unfold enabledProfile
  rw [limitDecel?_some slows]

theorem enabledProfile_carried {planner : Planner σ α} {input : PlannerInput α} {targets : SpeedTargets α}
    (passes : ¬ planner.SlowsForLimit input targets) :
    (planner.enabledProfile input targets).seed = planner.recurrence := by
  unfold enabledProfile
  rw [limitDecel?_none passes]

theorem enabledProfile_speed (planner : Planner σ α) (input : PlannerInput α) (targets : SpeedTargets α) :
    (planner.enabledProfile input targets).seed.speed = planner.recurrence.speed := by
  by_cases slows : planner.SlowsForLimit input targets
  · rw [enabledProfile_pinned slows]
  · rw [enabledProfile_carried slows]

theorem profileOf_disengaged (planner : Planner σ α) {input : PlannerInput α}
    (disengaged : input.control.engaged = false) :
    planner.profileOf input = ⟨disabledSeed planner.params input,(disabledSeed planner.params input).speed,
      (disabledSeed planner.params input).accel,none,none,none⟩ := by
  unfold profileOf cruiseProfile
  rw [disengaged]
  rfl

def seeded (planner : Planner σ α) (input : PlannerInput α) (mpc : Mpc σ α) : Mpc σ α :=
  mpc.setSeed (planner.profileOf input).seed.speed (planner.profileOf input).seed.accel

-- The two instances differ in the lead they are given and in nothing else.
inductive Side where
  | primary
  | secondary

def mpc (planner : Planner σ α) : Side → Mpc σ α
  | .primary => planner.mpc1
  | .secondary => planner.mpc2

def reportOf (report : PlannerReport α) : Side → MpcReport α
  | .primary => report.mpc1
  | .secondary => report.mpc2

def inputOf (input : PlannerInput α) : Side → MpcInput α
  | .primary => ⟨input.time,input.ego,input.radar.primaryLead,input.phantom⟩
  | .secondary => ⟨input.time,input.ego,input.radar.secondaryLead,input.phantom⟩

omit [Scalar α] in
theorem inputOf_ego (input : PlannerInput α) (side : Side) : (inputOf input side).ego = input.ego := by
  cases side <;> rfl

def planOf (params : Params α) (input : PlannerInput α) (profile : CruiseProfile α) (chosen : Candidate α)
    (tracking : Bool) (ahead : α) (raw : Bool) : Plan α :=
  let targets := targetsOf params input
  let processingDelay := input.time - input.radar.receivedAt
  let radarDead : Bool := radarTimeout < processingDelay
  { cruiseSpeed := profile.speed
    cruiseAccel := profile.accel
    startSpeed := profile.seed.speed
    startAccel := profile.seed.accel
    targetSpeed := chosen.speed
    targetAccel := chosen.accel
    futureSpeed := ahead
    hasLead := tracking
    source := chosen.source
    curveSpeed := targets.curve
    slowingAhead := targets.slowingAhead input.ego.speed
    mapUsed := (currentMap input).isSome
    radarValid := !(radarDead || input.radar.hasFault)
    radarCommIssue := input.radar.hasCommIssue
    processingDelay
    collisionWarning := gateWarning raw input.ego.brakePressed input.control params.warnWhileOff }

def carried (planner : Planner σ α) (profile : CruiseProfile α) (chosen : Candidate α) (mpc1 mpc2 : Mpc σ α)
    (warning : CollisionWarning α) : Planner σ α :=
  { planner with
    mpc1, mpc2, warning
    recurrence := profile.seed.advance chosen.accel
    source := chosen.source }

variable [Solver σ α] (planner : Planner σ α) (input : PlannerInput α)

def chosenOf : Candidate α :=
  planner.chosen input.control.engaged (planner.profileOf input) (planner.update input).1.mpc1
    (planner.update input).1.mpc2

theorem chosenOf_disengaged {input : PlannerInput α} (disengaged : input.control.engaged = false) :
    planner.chosenOf input = ⟨planner.source,(disabledSeed planner.params input).speed,
      (disabledSeed planner.params input).accel⟩ := by
  unfold chosenOf chosen
  rw [disengaged,profileOf_disengaged planner disengaged]
  rfl

theorem update_carried : (planner.update input).1 =
    planner.carried (planner.profileOf input) (planner.chosenOf input) (planner.update input).1.mpc1
      (planner.update input).1.mpc2 (planner.update input).1.warning := rfl

theorem update_plan : (planner.update input).2.1 =
    planOf planner.params input (planner.profileOf input) (planner.chosenOf input)
      (planner.update input).1.mpc1.hasLead
      (futureSpeed (planner.update input).1.mpc1.futureSpeed (planner.update input).1.mpc2.futureSpeed
        (targetsOf planner.params input).setpoint)
      (planner.update input).2.2.warningRaw := rfl

theorem update_warning : ((planner.update input).1.warning,(planner.update input).2.2.warningRaw) =
    planner.checkCollision input
      ((planner.update input).2.2.mpc1.newLead || (planner.update input).2.2.mpc2.newLead)
      (planner.update input).1.mpc1.course.egoAccel := rfl

theorem update_mpc (side : Side) : (planner.update input).1.mpc side =
    ((planner.seeded input (planner.mpc side)).update (inputOf input side)).1 := by
  cases side <;> rfl

theorem update_report (side : Side) : reportOf (planner.update input).2.2 side =
    ((planner.seeded input (planner.mpc side)).update (inputOf input side)).2 := by
  cases side <;> rfl

theorem update_chosen (engaged : input.control.engaged = true) :
    (⟨(planner.update input).2.1.source,(planner.update input).2.1.targetSpeed,
        (planner.update input).2.1.targetAccel⟩ : Candidate α) =
      chooseCandidate
        ⟨.cruise,(planner.update input).2.1.cruiseSpeed,(planner.update input).2.1.cruiseAccel⟩
        (candidate? (planner.update input).1.mpc1 .mpc1)
        (candidate? (planner.update input).1.mpc2 .mpc2) := by
  change planner.chosen input.control.engaged _ _ _ = _
  rw [engaged]
  rfl

def scripted (primary secondary : List (Except (SolverFault Float) (Solution Float))) :
    Planner (Scripted Float) Float where
  params := .standard
  mpc1 := .start 1 ⟨primary,0.001⟩ .standard
  mpc2 := .start 2 ⟨secondary,0.001⟩ .standard
  warning := .start
  recurrence := ⟨0.0,0.0⟩
  source := .cruise

theorem scripted_start (primary secondary : List (Except (SolverFault Float) (Solution Float))) :
    start Params.standard (⟨primary,0.001⟩ : Scripted Float) ⟨secondary,0.001⟩ =
      .ok (scripted primary secondary) := by
  have passed : (Params.standard : Params Float).check = .ok () := rfl
  unfold start
  rw [passed]
  rfl

def openRoad (speed : Float) : PlannerInput Float where
  time := 0.0
  ego := .moving speed
  radar := ⟨none,none,[],0.0⟩
  map := none
  cruiseKph := 90.0
  control := .pid
  forceDecel := false
  laterAngle := none
  phantom := none

end Headway.Planner
