import Headway.Proofs.Double.Monotone
import Headway.Proofs.Planner.Run
import Headway.Proofs.SpeedTargets
import Headway.Solver.Kinematic

-- What a planner does not look at. A reading whose own flag says that it does not count, a map past its time,
-- and the steering while signalling are masked: runs over inputs that differ in nothing else are the same run.
namespace Headway
open Scalar
variable {σ α : Type} [Scalar α]

-- The angle cannot be left out of what the car reports, so it is put straight instead.
def Ego.masked (ego : Ego α) : Ego α :=
  { ego with steeringAngle := if ego.signalling then 0.0 else ego.steeringAngle }

omit [Scalar α] in
def Radar.masked (radar : Radar α) : Radar α :=
  { radar with primary := lead? radar.primary, secondary := lead? radar.secondary }

def PlannerInput.masked (input : PlannerInput α) : PlannerInput α :=
  { input with
    ego := input.ego.masked
    radar := input.radar.masked
    map := (Planner.currentMap input).map RoadMap.masked
    laterAngle := if input.ego.signalling then none else input.laterAngle
    phantom := Phantom.active? input.phantom }

omit [Scalar α] in
theorem Radar.lead?_masked (track : Option (LeadTrack α)) : lead? (lead? track) = lead? track := by
  unfold lead?
  rw [Option.filter_filter]
  simp

omit [Scalar α] in
theorem Phantom.active?_masked (phantom : Option (Phantom α)) : active? (active? phantom) = active? phantom := by
  unfold active?
  rw [Option.filter_filter]
  simp

namespace Planner

theorem currentMap_masked (input : PlannerInput α) :
    currentMap input.masked = (currentMap input).map RoadMap.masked := by
  change ((currentMap input).map RoadMap.masked).filter _ = _
  cases current : currentMap input with
  | none => rfl
  | some map =>
    obtain ⟨_,counts⟩ := Option.filter_eq_some_iff.mp current
    exact Option.filter_some_pos counts

theorem primaryLead_masked (input : PlannerInput α) :
    input.masked.radar.primaryLead = input.radar.primaryLead := Radar.lead?_masked input.radar.primary

theorem secondaryLead_masked (input : PlannerInput α) :
    input.masked.radar.secondaryLead = input.radar.secondaryLead := Radar.lead?_masked input.radar.secondary

theorem turnAngles_masked (params : Params α) (input : PlannerInput α) :
    turnAngles params input.masked = turnAngles params input := by
  unfold turnAngles
  change (if input.ego.signalling then _ else _) = _
  cases signalling : input.ego.signalling with
  | true => rfl
  | false =>
    have steering : input.masked.ego.steeringAngle = input.ego.steeringAngle :=
      if_neg (ne_true_of_eq_false signalling)
    have later : input.masked.laterAngle = input.laterAngle := if_neg (ne_true_of_eq_false signalling)
    rw [steering,later]
    rfl

structure BelowCeiling (speed : α) : Prop where
  margin : speed + 1.0 ≤ noCeiling
  below : ¬ noCeiling < speed

section Cycle
variable (planner : Planner σ α) {input : PlannerInput α}

theorem targetsOf_masked [Ordered α] (params : Params α) (slow : BelowCeiling input.ego.speed) :
    SpeedTargets.SameCeilings input.ego.speed (targetsOf params input) (targetsOf params input.masked) := by
  unfold targetsOf
  rw [currentMap_masked]
  exact SpeedTargets.fuse_masked _ _ _ slow.margin slow.below

theorem narrowedLimits_masked (params : Params α) {targets other : SpeedTargets α}
    (same : SpeedTargets.SameCeilings input.ego.speed targets other) (cruise : AccelLimits α) :
    narrowedLimits params input.masked other cruise = narrowedLimits params input targets cruise := by
  unfold narrowedLimits
  rw [turnAngles_masked,same.turnInRange]
  cases inRange : targets.turnInRange with
  | false => rfl
  | true =>
    rw [same.turn (Bool.and_eq_true_iff.mp inRange).1,same.same]
    rfl

theorem limitDecel?_masked {targets other : SpeedTargets α}
    (same : SpeedTargets.SameCeilings input.ego.speed targets other) :
    planner.limitDecel? input.masked other = planner.limitDecel? input targets := by
  by_cases slows : planner.SlowsForLimit input targets
  · have slows' : planner.SlowsForLimit input.masked other := by
      rw [same.same]
      exact slows
    rw [limitDecel?_some slows,limitDecel?_some slows',same.ahead slows.2.2,same.same]
    rfl
  · have passes : ¬ planner.SlowsForLimit input.masked other := by
      rw [same.same]
      exact slows
    rw [limitDecel?_none slows,limitDecel?_none passes]

theorem leadPullsAway_masked (input : PlannerInput α) : leadPullsAway input.masked = leadPullsAway input := by
  unfold leadPullsAway
  rw [primaryLead_masked]
  rfl

theorem profileOf_masked [Ordered α] (slow : BelowCeiling input.ego.speed) :
    planner.profileOf input.masked = planner.profileOf input := by
  have same := targetsOf_masked planner.params slow
  unfold profileOf cruiseProfile
  change (if input.control.engaged then _ else _) = _
  cases input.control.engaged with
  | false => rfl
  | true =>
    change planner.enabledProfile input.masked _ = planner.enabledProfile input _
    unfold enabledProfile
    rw [planner.limitDecel?_masked same,leadPullsAway_masked]
    simp only [narrowedLimits_masked planner.params same]
    rw [same.same]
    rfl

theorem followed_masked (input : PlannerInput α) (side : Side) :
    Mpc.followed (inputOf input.masked side) = Mpc.followed (inputOf input side) := by
  have lead : Radar.lead? (inputOf input.masked side).lead = Radar.lead? (inputOf input side).lead := by
    cases side with
    | primary => exact congrArg Radar.lead? (primaryLead_masked input)
    | secondary => exact congrArg Radar.lead? (secondaryLead_masked input)
  have phantom : Phantom.active? (inputOf input.masked side).phantom = Phantom.active? (inputOf input side).phantom := by
    cases side <;> exact Phantom.active?_masked input.phantom
  unfold Mpc.followed
  rw [lead,phantom]
  cases side <;> rfl

theorem planOf_masked [Ordered α] (params : Params α) (slow : BelowCeiling input.ego.speed) (profile : CruiseProfile α)
    (chosen : Candidate α) (tracking : Bool) (ahead : α) (raw : Bool) :
    planOf params input.masked profile chosen tracking ahead raw =
      planOf params input profile chosen tracking ahead raw := by
  have same := (targetsOf_masked params slow).same
  unfold planOf
  rw [currentMap_masked,Option.isSome_map,same]
  rfl

theorem checkCollision_masked (rearm : Bool) (predicted : List α) :
    planner.checkCollision input.masked rearm predicted = planner.checkCollision input rearm predicted := by
  unfold checkCollision
  rw [primaryLead_masked]
  rfl

variable [Solver σ α] [Ordered α]

-- The instances hear of a lead through what they follow, and of the ego nothing but its speed, its
-- acceleration and its blinkers.
theorem instance_masked (slow : BelowCeiling input.ego.speed) (side : Side) :
    (planner.update input.masked).1.mpc side = (planner.update input).1.mpc side ∧
      reportOf (planner.update input.masked).2.2 side = reportOf (planner.update input).2.2 side := by
  have seeded : planner.seeded input.masked (planner.mpc side) = planner.seeded input (planner.mpc side) := by
    unfold Planner.seeded
    rw [planner.profileOf_masked slow]
  have updated : ∀ mpc : Mpc σ α, mpc.update (inputOf input.masked side) = mpc.update (inputOf input side) := by
    intro mpc
    unfold Mpc.update
    rw [followed_masked]
    cases side <;> rfl
  rw [update_mpc,update_mpc,update_report,update_report,seeded,updated]
  exact ⟨rfl,rfl⟩

structure SameCycle (input other : PlannerInput α) : Prop where
  state : (planner.update input).1 = (planner.update other).1
  plan : (planner.update input).2.1 = (planner.update other).2.1
  reports : ∀ side, reportOf (planner.update input).2.2 side = reportOf (planner.update other).2.2 side

theorem update_masked (slow : BelowCeiling input.ego.speed) : planner.SameCycle input.masked input := by
  obtain ⟨first,report⟩ : (planner.update input.masked).1.mpc1 = (planner.update input).1.mpc1 ∧
      (planner.update input.masked).2.2.mpc1 = (planner.update input).2.2.mpc1 :=
    planner.instance_masked slow .primary
  obtain ⟨second,report'⟩ : (planner.update input.masked).1.mpc2 = (planner.update input).1.mpc2 ∧
      (planner.update input.masked).2.2.mpc2 = (planner.update input).2.2.mpc2 :=
    planner.instance_masked slow .secondary
  have profile := planner.profileOf_masked slow
  have chosen : planner.chosenOf input.masked = planner.chosenOf input := by
    unfold chosenOf
    rw [first,second,profile]
    rfl
  have checked := planner.update_warning input.masked
  rw [checkCollision_masked,report,report',first,← update_warning] at checked
  obtain ⟨warning,raw⟩ := Prod.mk.inj checked
  have setpoint : (targetsOf planner.params input.masked).setpoint = (targetsOf planner.params input).setpoint := by
    rw [(targetsOf_masked planner.params slow).same]
  refine ⟨?_,?_,fun side => (planner.instance_masked slow side).2⟩
  · calc (planner.update input.masked).1
        = planner.carried (planner.profileOf input.masked) (planner.chosenOf input.masked)
            (planner.update input.masked).1.mpc1 (planner.update input.masked).1.mpc2
            (planner.update input.masked).1.warning := planner.update_carried input.masked
      _ = planner.carried (planner.profileOf input) (planner.chosenOf input) (planner.update input).1.mpc1
            (planner.update input).1.mpc2 (planner.update input).1.warning := by
          rw [profile,chosen,first,second,warning]
      _ = (planner.update input).1 := (planner.update_carried input).symm
  · rw [update_plan,update_plan,planOf_masked _ slow,profile,chosen,first,second,setpoint,raw]

theorem update_alike {other : PlannerInput α} (same : input.masked = other.masked)
    (slow : BelowCeiling input.ego.speed) : planner.SameCycle input other := by
  have speed : input.ego.speed = other.ego.speed := by
    change input.masked.ego.speed = other.masked.ego.speed
    rw [same]
  have left := planner.update_masked slow
  have right := planner.update_masked (speed ▸ slow)
  rw [same] at left
  exact ⟨left.state.symm.trans right.state,left.plan.symm.trans right.plan,
    fun side => (left.reports side).symm.trans (right.reports side)⟩

omit [Solver σ α] [Ordered α] in
def Step.masked : Step α → Step α
  | .reconfigure params => .reconfigure params
  | .cycle input => .cycle input.masked

end Cycle

theorem belowCeiling_of_margin {speed : Float} (margin : speed + 1.0 ≤ noCeiling) : BelowCeiling speed := by
  refine ⟨margin,?_⟩
  intro above
  have positive : (0.0 : Float) ≤ noCeiling := by decide
  have grows := Double.le_add (Ordered.le_trans positive (Ordered.le_of_lt above)) (show (0.0 : Float) ≤ 1.0 by decide)
  exact Ordered.not_lt_of_le (Ordered.le_trans grows margin) above

end Planner

namespace ArchivedPlanner
open Planner

section Run
variable [Solver σ α] [Ordered α] (archived : ArchivedPlanner σ α)

theorem update_alike {input other : PlannerInput α} (same : input.masked = other.masked)
    (slow : BelowCeiling input.ego.speed) :
    (archived.update input).1 = (archived.update other).1 ∧
      (archived.update input).2.1 = (archived.update other).2.1 := by
  obtain ⟨state,plan,reports⟩ := archived.planner.update_alike same slow
  have time : input.time = other.time := by
    change input.masked.time = other.masked.time
    rw [same]
  have first : (archived.planner.update input).2.2.mpc1 = (archived.planner.update other).2.2.mpc1 := reports .primary
  have second : (archived.planner.update input).2.2.mpc2 = (archived.planner.update other).2.2.mpc2 :=
    reports .secondary
  refine ⟨?_,plan⟩
  calc (archived.update input).1
      = { archived with
          planner := (archived.planner.update input).1
          last := some ⟨planRecord input.time (archived.planner.update input).2.1,
            [mpcRecord input.time (archived.planner.update input).1.mpc1 (archived.planner.update input).2.2.mpc1,
             mpcRecord input.time (archived.planner.update input).1.mpc2 (archived.planner.update input).2.2.mpc2]⟩ } := rfl
    _ = (archived.update other).1 := by
        rw [state,plan,first,second,time]
        rfl

theorem runs_alike {steps others : List (Step α)} (same : steps.map Step.masked = others.map Step.masked)
    (slow : ∀ input, .cycle input ∈ steps → BelowCeiling input.ego.speed) :
    archived.plans steps = archived.plans others ∧ archived.states steps = archived.states others := by
  induction steps generalizing archived others with
  | nil =>
    cases List.map_eq_nil_iff.mp same.symm
    exact ⟨rfl,rfl⟩
  | cons step rest ih =>
    obtain ⟨other,others,rfl,sameStep,sameRest⟩ := List.map_eq_cons_iff.mp same.symm
    have later : ∀ input, .cycle input ∈ rest → BelowCeiling input.ego.speed :=
      fun input member => slow input (List.mem_cons_of_mem _ member)
    cases step with
    | reconfigure params =>
      cases other with
      | cycle input => cases sameStep
      | reconfigure params =>
        cases sameStep
        obtain ⟨plans,states⟩ := ih (archived.adopt params) sameRest.symm later
        exact ⟨plans,congrArg (archived.adopt params :: ·) states⟩
    | cycle input =>
      cases other with
      | reconfigure params => cases sameStep
      | cycle other =>
        obtain ⟨state,plan⟩ := archived.update_alike (Step.cycle.inj sameStep).symm (slow input List.mem_cons_self)
        obtain ⟨plans,states⟩ := ih (archived.update input).1 sameRest.symm later
        constructor
        · change (archived.update input).2.1 :: (archived.update input).1.plans rest =
            (archived.update other).2.1 :: (archived.update other).1.plans others
          rw [plans,state,plan]
        · change (archived.update input).1 :: (archived.update input).1.states rest =
            (archived.update other).1 :: (archived.update other).1.states others
          rw [states,state]

end Run

-- Two runs that differ in masked readings only publish the same plans and pass through the same states, the
-- records for the archives included.
theorem masked_inputs_unseen [Solver σ Float] {archived : ArchivedPlanner σ Float} {steps others : List (Step Float)}
    (same : steps.map Step.masked = others.map Step.masked)
    (slow : ∀ input, .cycle input ∈ steps → input.ego.speed + 1.0 ≤ noCeiling) :
    archived.plans steps = archived.plans others ∧ archived.states steps = archived.states others :=
  archived.runs_alike same fun input member => belowCeiling_of_margin (slow input member)

def simulated : ArchivedPlanner (Kinematic Float) Float := ⟨fresh .standard .start .start,none,.closed,.closed⟩

def turnsOff : PlannerInput Float :=
  { openRoad 20.0 with
    time := 30.0
    ego := { Ego.moving 20.0 with leftBlinker := true }
    map := some { RoadMap.blank with receivedAt := 25.0 } }

def quietRun : List (Step Float) := [.cycle { openRoad 20.0 with time := 30.0 },.cycle turnsOff]

def noisyRun : List (Step Float) :=
  [.cycle
    { openRoad 20.0 with
      time := 30.0
      radar := ⟨some ⟨false,3.0,0.0,0.0,-3.0,0.0,0.0,1.5,1.0⟩,none,[],0.0⟩
      map := some { RoadMap.blank with limitKnown := true, limit := 3.0 }
      phantom := some ⟨false,0.0,true⟩ },
   .cycle
    { turnsOff with
      ego := { turnsOff.ego with steeringAngle := 90.0 }
      laterAngle := some 45.0
      map := some ⟨false,3.0,false,2.0,10.0,false,0.1,20.0,true,25.0⟩ }]

theorem noisy_run_unseen :
    quietRun.map Step.masked = noisyRun.map Step.masked ∧
      (∀ input, .cycle input ∈ quietRun → input.ego.speed + 1.0 ≤ noCeiling) ∧
      simulated.plans quietRun = simulated.plans noisyRun ∧
      simulated.states quietRun = simulated.states noisyRun := by
  have same : quietRun.map Step.masked = noisyRun.map Step.masked := rfl
  have slow : ∀ input, .cycle input ∈ quietRun → input.ego.speed + 1.0 ≤ noCeiling := by
    intro input member
    simp only [quietRun,List.mem_cons,Step.cycle.injEq,List.not_mem_nil,or_false] at member
    have margin : (20.0 : Float) + 1.0 ≤ noCeiling := by decide
    rcases member with rfl | rfl
    · exact margin
    · exact margin
  exact ⟨same,slow,masked_inputs_unseen same slow⟩

end ArchivedPlanner
end Headway
